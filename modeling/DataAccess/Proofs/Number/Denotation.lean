import DataAccess.Proofs.Number.Widening
import Mathlib.Algebra.Order.Field.Rat
import Mathlib.Algebra.Order.AbsoluteValue.Basic
import Mathlib.Tactic.Positivity

-- The number that a double stands for: its significand times its power of two, with its sign. What
-- the library does in whole-number arithmetic is told here of that number.
namespace DataAccess.Number
open Format

-- A power of two as a fraction of whole ones.
theorem scaled_eq (s : Nat) (p : Int) :
    (s : ℚ) * 2 ^ p = (s * 2 ^ p.toNat : Nat) / (2 ^ (-p).toNat : Nat) := by
  have split : p = (p.toNat : Int) - ((-p).toNat : Nat) := by omega
  have power : (2 : ℚ) ^ p = 2 ^ p.toNat / 2 ^ (-p).toNat := by
    conv_lhs => rw [split]
    rw [zpow_sub₀ two_ne_zero,zpow_natCast,zpow_natCast]
  rw [power]
  push_cast
  rw [mul_div_assoc]

theorem scaled_whole {s n : Nat} {p : Int} :
    (s : ℚ) * 2 ^ p = n ↔ s * 2 ^ p.toNat = n * 2 ^ (-p).toNat := by
  have positive : ((2 ^ (-p).toNat : Nat) : ℚ) ≠ 0 := by positivity
  rw [scaled_eq,div_eq_iff positive,← Nat.cast_mul,Nat.cast_inj]

namespace Double

def size (x : Double) : ℚ := binary64.significand x.magnitude * 2 ^ binary64.power x.magnitude

def value (x : Double) : ℚ := if x.negative then -x.size else x.size

-- Infinities and NaNs stand for no number.
def Denotes (x : Double) (q : ℚ) : Prop := x.isFinite ∧ x.value = q

-- A double that stands for a number stands for no other.
theorem Denotes.unique {x : Double} {q r : ℚ} (one : x.Denotes q) (other : x.Denotes r) : q = r :=
  one.2.symm.trans other.2

theorem size_nonneg (x : Double) : 0 ≤ x.size :=
  mul_nonneg (Nat.cast_nonneg _) (zpow_nonneg zero_le_two _)

theorem abs_value (x : Double) : |x.value| = x.size := by
  unfold value
  split
  · rw [abs_neg,abs_of_nonneg x.size_nonneg]
  · exact abs_of_nonneg x.size_nonneg

-- A quotient by a power of two that leaves no remainder; only one of the two powers is not one.
theorem whole_quotient {s n : Nat} {p : Int} :
    (if s % 2 ^ (-p).toNat = 0 then some (s * 2 ^ p.toNat / 2 ^ (-p).toNat) else none) = some n ↔
      s * 2 ^ p.toNat = n * 2 ^ (-p).toNat := by
  have positive := Nat.two_pow_pos (-p).toNat
  by_cases raised : 0 ≤ p
  · have none : (-p).toNat = 0 := by omega
    simp [none,Nat.mod_one]
  · have none : p.toNat = 0 := by omega
    rw [none,Nat.pow_zero,Nat.mul_one]
    constructor
    · intro whole
      split at whole
      · rename_i exact
        cases whole
        exact (Nat.div_mul_cancel (Nat.dvd_of_mod_eq_zero exact)).symm
      · cases whole
    · intro whole
      rw [whole,Nat.mul_mod_left,if_pos rfl,Nat.mul_div_cancel _ positive]

-- The size of a double is whole where the power of two leaves no remainder.
theorem wholeSize?_some {x : Double} : x.wholeSize? = some n ↔ x.isFinite ∧ x.size = n := by
  unfold size
  rw [scaled_whole,← whole_quotient]
  unfold wholeSize?
  cases x.isFinite <;> simp

theorem toInt?_sized (x : Double) :
    x.toInt? = x.wholeSize?.map fun k : Nat => if x.negative then -(k : Int) else k := by
  unfold toInt?
  cases x.wholeSize? <;> rfl

-- A double is read as a whole number exactly if it stands for it.
theorem toInt?_some {x : Double} {n : Int} : x.toInt? = some n ↔ x.Denotes n := by
  have sized {k : Nat} (whole : x.size = k) :
      x.value = ((if x.negative then -(k : Int) else k : Int) : ℚ) := by
    unfold value
    rw [whole]
    split <;> push_cast <;> rfl
  rw [toInt?_sized]
  constructor
  · intro read
    obtain ⟨k,whole,rfl⟩ := Option.map_eq_some_iff.mp read
    obtain ⟨finite,size⟩ := wholeSize?_some.mp whole
    exact ⟨finite,sized size⟩
  · rintro ⟨finite,stands⟩
    have size : x.size = (n.natAbs : Nat) := by
      rw [← abs_value,stands,← Int.cast_abs,Int.abs_eq_natAbs]
      rfl
    have same := (sized size).symm.trans stands
    rw [wholeSize?_some.mpr ⟨finite,size⟩,Option.map_some,Int.cast_inj.mp same]

end Double

end DataAccess.Number
