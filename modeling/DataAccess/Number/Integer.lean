-- Whole numbers in decimal digits: reading them with a sign, and reading them into the fixed widths
-- that columns and settings have.
namespace DataAccess.Number

def digit? (c : Char) : Option Nat :=
  if c.isDigit then some (c.toNat - '0'.toNat) else none

def digitsFrom (sofar : Nat) : List Char → Option Nat
  | [] => some sofar
  | c :: rest => (digit? c).bind fun d => digitsFrom (10 * sofar + d) rest

def digits? : List Char → Option Nat
  | [] => none
  | s => digitsFrom 0 s

def readInt? : List Char → Option Int
  | '+' :: rest => (digits? rest).map Int.ofNat
  | '-' :: rest => (digits? rest).map fun n => -(n : Int)
  | s => (digits? s).map Int.ofNat

-- Digits with at most a plus before them. A minus is refused, also before zero.
def readNat? : List Char → Option Nat
  | '+' :: rest => digits? rest
  | s => digits? s

def int64? (n : Int) : Option Int64 :=
  if Int64.minValue.toInt ≤ n ∧ n ≤ Int64.maxValue.toInt then some (Int64.ofInt n) else none

def readInt64? (s : List Char) : Option Int64 := (readInt? s).bind int64?

def readBelow? (bound : Nat) (s : List Char) : Option Nat :=
  (readNat? s).filter (· < bound)

def padded (width n : Nat) : List Char :=
  let digits := Nat.toDigits 10 n
  List.replicate (width - digits.length) '0' ++ digits

end DataAccess.Number
