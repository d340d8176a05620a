import DataAccess.Number.Double
import DataAccess.Number.Integer

-- The decimal text of a double: the fewest digits that only this double is nearest to, and of those
-- the digits nearest to it, written positionally whatever the size.
namespace DataAccess.Number

-- The numbers that round to one magnitude, as numerators over one denominator: `low` to `high`
-- around `middle`, the ends among them only when `closed`.
structure Neighbourhood where
  low : Nat
  middle : Nat
  high : Nat
  denominator : Nat
  closed : Bool

-- Half the distance to the next number below is half of that above where the significand
-- is a power of two, since the numbers lie twice as dense there.
def neighbourhood (f : Format) (magnitude : Nat) : Neighbourhood :=
  let m := f.significand magnitude
  let p := f.power magnitude - 2
  let up := Nat.pow 2 p.toNat
  let below := if f.exponentField magnitude ≠ 0 ∧ m = f.leadingBit then 1 else 2
  ⟨(4 * m - below) * up,4 * m * up,(4 * m + 2) * up,Nat.pow 2 (-p).toNat,m % 2 = 0⟩

def Neighbourhood.holds (n : Neighbourhood) (candidate scale : Nat) : Bool :=
  let x := candidate * n.denominator
  if n.closed then n.low * scale ≤ x && x ≤ n.high * scale
  else n.low * scale < x && x < n.high * scale

structure Decimal where
  digits : Nat
  power : Int
  deriving DecidableEq, Repr

-- The place before the first digit: the least `e` with `numerator / denominator < 10 ^ e`.
-- Below one it is looked for step by step, `fuel` steps at most.
def decimalOrder (numerator denominator : Nat) : Nat → Int
  | 0 => 0
  | fuel + 1 =>
    if denominator ≤ numerator then (Nat.toDigits 10 (numerator / denominator)).length
    else decimalOrder (numerator * 10) denominator fuel - 1

-- The two neighbours of the middle on the grid of a power of ten: the one in the
-- neighbourhood, of two the nearer, and of two as near the upper.
def Neighbourhood.onGrid? (n : Neighbourhood) (power : Int) : Option Decimal :=
  let unit := Nat.pow 10 power.toNat
  let scale := Nat.pow 10 (-power).toNat
  let below := n.middle * scale / (n.denominator * unit)
  let excess := n.middle * scale - below * unit * n.denominator
  let width := unit * n.denominator
  let lower := n.holds (below * unit) scale
  let upper := n.holds ((below + 1) * unit) scale
  if lower && (!upper || 2 * excess < width) then some ⟨below,power⟩
  else if upper then some ⟨below + 1,power⟩
  else none

-- Grids of one digit, two digits and so on.
def Neighbourhood.search (n : Neighbourhood) (order : Int) : Nat → Decimal
  | 0 => ⟨n.middle / n.denominator,0⟩
  | fuel + 1 => (n.onGrid? (order - 1)).getD (n.search (order - 1) fuel)

-- The shortest decimal of a positive finite magnitude. Seventeen digits always suffice.
def shortest (f : Format) (magnitude : Nat) : Decimal :=
  let n := neighbourhood f magnitude
  n.search (decimalOrder n.middle n.denominator 400) 17

def positional (d : Decimal) : List Char :=
  let digits := Nat.toDigits 10 d.digits
  if 0 ≤ d.power then digits ++ List.replicate d.power.toNat '0'
  else
    let places := (-d.power).toNat
    let whole := digits.take (digits.length - places)
    let fraction := List.replicate (places - digits.length) '0'
      ++ digits.drop (digits.length - places)
    let kept := (fraction.reverse.dropWhile (· = '0')).reverse
    (if whole.isEmpty then ['0'] else whole) ++ if kept.isEmpty then [] else '.' :: kept

def Double.text (x : Double) : List Char :=
  if x.isNaN then ['N','a','N']
  else
    (if x.negative then ['-'] else []) ++
      if x.magnitude = 0 then ['0']
      else if x.isFinite then positional (shortest Format.binary64 x.magnitude)
      else ['i','n','f']

end DataAccess.Number
