import DataAccess.Number.Double
import DataAccess.Number.Integer

-- Reading a double: an optional sign, then digits with at most one point among or around them and
-- an optional power of ten, or one of the words for infinity and NaN in any ASCII case. The result
-- is the double nearest to the number read.
namespace DataAccess.Number

def takeDigits (s : List Char) : List Char × List Char := s.span Char.isDigit

-- Powers beyond 65535 are cut off: they lie far outside what a double can tell apart.
def exponentDigits (sofar : Nat) : List Char → Option Nat
  | [] => some sofar
  | c :: rest =>
    (digit? c).bind fun d =>
      exponentDigits (if sofar < 65536 then 10 * sofar + d else sofar) rest

def exponent? : List Char → Option Int
  | [] => some 0
  | c :: rest =>
    if c = 'e' ∨ c = 'E' then
      match rest with
      | '-' :: (d :: ds) => (exponentDigits 0 (d :: ds)).map fun n => -(n : Int)
      | '+' :: (d :: ds) => (exponentDigits 0 (d :: ds)).map Int.ofNat
      | d :: ds => (exponentDigits 0 (d :: ds)).map Int.ofNat
      | [] => none
    else none

def decimal? (s : List Char) : Option (Nat × Int) :=
  let (whole,afterWhole) := takeDigits s
  let (fraction,rest) :=
    match afterWhole with
    | '.' :: more => takeDigits more
    | other => ([],other)
  match digits? (whole ++ fraction),exponent? rest with
  | some digits,some power => some (digits,power - fraction.length)
  | _,_ => none

-- A number of fewer than `d` digits at the power `p` lies below `10 ^ (d + p)`: below
-- 10 ^ -400 it is nearer to zero than to any double, and from 10 ^ 400 on it is infinite.
def nearestDecimal (digits : Nat) (power : Int) : Nat :=
  let order := (Nat.toDigits 10 digits).length + power
  if digits = 0 ∨ order < -400 then 0
  else if 400 < order then Format.binary64.infinity
  else Format.binary64.nearest (digits * Nat.pow 10 power.toNat) (Nat.pow 10 (-power).toNat)

def unsignedDouble? (negative : Bool) (s : List Char) : Option Double :=
  match decimal? s with
  | some (digits,power) => some (Double.ofMagnitude negative (nearestDecimal digits power))
  | none =>
    let word := String.ofList (s.map Char.toLower)
    if word = "inf" ∨ word = "infinity" then some (Double.infinite negative)
    else if word = "nan" then some (Double.notANumber negative)
    else none

def readDouble? : List Char → Option Double
  | '+' :: rest => unsignedDouble? false rest
  | '-' :: rest => unsignedDouble? true rest
  | s => unsignedDouble? false s

end DataAccess.Number
