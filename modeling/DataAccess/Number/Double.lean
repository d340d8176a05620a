import DataAccess.Number.Binary

-- The two floating-point types that columns have, each held as its bits: `Double` in sixty-four,
-- `Single` in thirty-two. Two of them are equal when their bits are, so a NaN is equal to itself
-- and the two zeros differ.
namespace DataAccess.Number

structure Double where
  bits : UInt64
  deriving DecidableEq, Repr

structure Single where
  bits : UInt32
  deriving DecidableEq, Repr

namespace Double

def negative (x : Double) : Bool := Format.binary64.signBit ≤ x.bits.toNat

def magnitude (x : Double) : Nat := x.bits.toNat % Format.binary64.signBit

def ofMagnitude (negative : Bool) (magnitude : Nat) : Double :=
  ⟨UInt64.ofNat ((if negative then Format.binary64.signBit else 0) + magnitude)⟩

def isFinite (x : Double) : Bool := x.magnitude < Format.binary64.infinity

def isNaN (x : Double) : Bool := Format.binary64.infinity < x.magnitude

def infinite (negative : Bool) : Double := ofMagnitude negative Format.binary64.infinity

-- The NaN that reading and arithmetic give: the first fraction bit and no other.
def notANumber (negative : Bool) : Double :=
  ofMagnitude negative (Format.binary64.infinity + Format.binary64.quietBit)

def ofInt (n : Int) : Double := ofMagnitude (n < 0) (Format.binary64.nearest n.natAbs 1)

def wholeSize? (x : Double) : Option Nat :=
  let m := Format.binary64.significand x.magnitude
  let p := Format.binary64.power x.magnitude
  if !x.isFinite then none
  else if m % Nat.pow 2 (-p).toNat = 0 then
    some (m * Nat.pow 2 p.toNat / Nat.pow 2 (-p).toNat)
  else none

def toInt? (x : Double) : Option Int :=
  x.wholeSize?.map fun n => if x.negative then -(n : Int) else n

end Double

namespace Single

def negative (x : Single) : Bool := Format.binary32.signBit ≤ x.bits.toNat

def magnitude (x : Single) : Nat := x.bits.toNat % Format.binary32.signBit

def ofMagnitude (negative : Bool) (magnitude : Nat) : Single :=
  ⟨UInt32.ofNat ((if negative then Format.binary32.signBit else 0) + magnitude)⟩

def isNaN (x : Single) : Bool := Format.binary32.infinity < x.magnitude

def ofInt (n : Int) : Single := ofMagnitude (n < 0) (Format.binary32.nearest n.natAbs 1)

def toDouble (x : Single) : Double :=
  let f := Format.binary32
  Double.ofMagnitude x.negative <|
    if x.magnitude < f.infinity then
      Format.binary64.nearestScaled (f.significand x.magnitude) (f.power x.magnitude)
    else if x.isNaN then
      Format.binary64.infinity + Format.binary64.quietBit
        + f.fractionField x.magnitude % f.quietBit * Nat.pow 2 29
    else Format.binary64.infinity

end Single

def Double.toSingle (x : Double) : Single :=
  let f := Format.binary64
  Single.ofMagnitude x.negative <|
    if x.isFinite then
      Format.binary32.nearestScaled (f.significand x.magnitude) (f.power x.magnitude)
    else if x.isNaN then
      Format.binary32.infinity + Format.binary32.quietBit
        + f.fractionField x.magnitude / Nat.pow 2 29 % Format.binary32.quietBit
    else Format.binary32.infinity

end DataAccess.Number
