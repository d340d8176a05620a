-- Binary floating-point numbers of any width, in whole-number arithmetic. A magnitude is the word
-- without its sign bit; it stands for a significand times a power of two, and a quotient of whole
-- numbers is rounded to the nearest magnitude, a half to the even one.
namespace DataAccess.Number

structure Format where
  fractionBits : Nat
  exponentBits : Nat
  deriving DecidableEq, Repr

namespace Format

def binary64 : Format := ⟨52,11⟩
def binary32 : Format := ⟨23,8⟩

def leadingBit (f : Format) : Nat := Nat.pow 2 f.fractionBits

def quietBit (f : Format) : Nat := Nat.pow 2 (f.fractionBits - 1)

def signBit (f : Format) : Nat := Nat.pow 2 (f.exponentBits + f.fractionBits)

def infinity (f : Format) : Nat := (Nat.pow 2 f.exponentBits - 1) * f.leadingBit

def leastPower (f : Format) : Int := 2 - Nat.pow 2 (f.exponentBits - 1) - f.fractionBits

def exponentField (f : Format) (magnitude : Nat) : Nat := magnitude / f.leadingBit

def fractionField (f : Format) (magnitude : Nat) : Nat := magnitude % f.leadingBit

def significand (f : Format) (magnitude : Nat) : Nat :=
  if f.exponentField magnitude = 0 then f.fractionField magnitude
  else f.leadingBit + f.fractionField magnitude

def power (f : Format) (magnitude : Nat) : Int :=
  if f.exponentField magnitude = 0 then f.leastPower
  else f.leastPower + f.exponentField magnitude - 1

def assemble (f : Format) (significand : Nat) (power : Int) : Nat :=
  min ((power - f.leastPower).toNat * f.leadingBit + significand) f.infinity

end Format

def roundHalfEven (numerator denominator : Nat) : Nat :=
  let quotient := numerator / denominator
  let twice := 2 * (numerator % denominator)
  if twice < denominator then quotient
  else if denominator < twice then quotient + 1
  else quotient + quotient % 2

-- The greatest `e` with `2 ^ e ≤ numerator / denominator`, both positive.
def binaryOrder (numerator denominator : Nat) : Int :=
  let e : Int := (Nat.log2 numerator : Int) - Nat.log2 denominator
  if numerator * Nat.pow 2 (-e).toNat < denominator * Nat.pow 2 e.toNat then e - 1 else e

def Format.nearest (f : Format) (numerator denominator : Nat) : Nat :=
  if numerator = 0 then 0
  else
    let power := max (binaryOrder numerator denominator - f.fractionBits) f.leastPower
    f.assemble
      (roundHalfEven (numerator * Nat.pow 2 (-power).toNat)
        (denominator * Nat.pow 2 power.toNat))
      power

def Format.nearestScaled (f : Format) (significand : Nat) (power : Int) : Nat :=
  f.nearest (significand * Nat.pow 2 power.toNat) (Nat.pow 2 (-power).toNat)

end DataAccess.Number
