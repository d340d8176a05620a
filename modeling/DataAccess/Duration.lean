import DataAccess.Number.Integer

-- Lengths of time, held as nanoseconds and written in the largest unit that they fill.
namespace DataAccess

structure Duration where
  nanos : Nat
  deriving DecidableEq, Repr

namespace Duration

def ofSeconds (seconds : Nat) : Duration := ⟨seconds * 1_000_000_000⟩

def seconds (d : Duration) : Nat := d.nanos / 1_000_000_000

def subsecond (d : Duration) : Nat := d.nanos % 1_000_000_000

-- A quotient by a power of ten as a decimal fraction, without zeros at its end.
def inUnits (places nanos : Nat) : List Char :=
  let unit := Nat.pow 10 places
  let fraction := (Number.padded places (nanos % unit)).reverse.dropWhile (· = '0')
  Nat.toDigits 10 (nanos / unit) ++
    if fraction.isEmpty then [] else '.' :: fraction.reverse

def text (d : Duration) : String :=
  String.ofList <|
    if 1_000_000_000 ≤ d.nanos then inUnits 9 d.nanos ++ ['s']
    else if 1_000_000 ≤ d.nanos then inUnits 6 d.nanos ++ ['m','s']
    else if 1000 ≤ d.nanos then inUnits 3 d.nanos ++ ['µ','s']
    else Nat.toDigits 10 d.nanos ++ ['n','s']

end Duration

end DataAccess
