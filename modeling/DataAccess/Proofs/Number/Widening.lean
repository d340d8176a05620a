import DataAccess.Number.Double
import DataAccess.Proofs.Number.Exactness

-- Singles as doubles. A double has room for every single, so that going to a double and back
-- changes nothing; of NaNs, which carry other bits, nothing is said.
namespace DataAccess.Number
open Format

theorem significand_zero (f : Format) {m : Nat} : f.significand m = 0 ↔ m = 0 := by
  have positive := f.leadingBit_pos
  have whole : f.leadingBit * f.exponentField m + f.fractionField m = m := Nat.div_add_mod m _
  unfold significand
  by_cases least : f.exponentField m = 0
  · rw [if_pos least]
    rw [least,Nat.mul_zero,Nat.zero_add] at whole
    rw [whole]
  · rw [if_neg least]
    constructor
    · omega
    · intro none
      rw [none] at least
      exact absurd (Nat.zero_div _) least

theorem single_power {m : Nat} (finite : m < binary32.infinity) :
    -149 ≤ binary32.power m ∧ binary32.power m ≤ 104 := by
  have least : binary32.leastPower = -149 := rfl
  have field : binary32.exponentField m < 255 := by
    have bound : binary32.infinity = 255 * binary32.leadingBit := rfl
    rw [bound] at finite
    exact (Nat.div_lt_iff_lt_mul binary32.leadingBit_pos).mpr finite
  unfold power
  split <;> omega

-- Every finite number of thirty-two bits has its place among those of sixty-four.
theorem widened_fits {m : Nat} (finite : m < binary32.infinity) (some : m ≠ 0) :
    ∃ k : Nat, binary64.Fits (binary32.significand m * 2 ^ k) (binary32.power m - k) ∧
      (binary32.power m - k - binary64.leastPower).toNat * binary64.leadingBit +
        binary32.significand m * 2 ^ k < binary64.infinity := by
  have led : binary64.leadingBit = 2 ^ 52 := rfl
  have least : binary64.leastPower = -1074 := rfl
  have bound : binary64.infinity = 2047 * 2 ^ 52 := rfl
  have written : binary32.significand m ≠ 0 := fun none => some ((significand_zero binary32).mp none)
  obtain ⟨low,high⟩ := single_power finite
  have short : Nat.log2 (binary32.significand m) < 24 :=
    (Nat.log2_lt written).mpr (binary32.parts_fit m).below
  -- The leading bit is moved to the place that it has in sixty-four bits.
  refine ⟨52 - Nat.log2 (binary32.significand m),?_⟩
  generalize reached : 52 - Nat.log2 (binary32.significand m) = k
  have order := log2_shift written k
  have shifted : binary32.significand m * 2 ^ k ≠ 0 :=
    Nat.mul_ne_zero written (Nat.pos_iff_ne_zero.mp (Nat.two_pow_pos k))
  have from_below : 2 ^ 52 ≤ binary32.significand m * 2 ^ k := (Nat.le_log2 shifted).mp (by omega)
  have from_above : binary32.significand m * 2 ^ k < 2 ^ 53 := (Nat.log2_lt shifted).mp (by omega)
  rw [led,least,bound]
  refine ⟨⟨by omega,by rw [led]; omega,.inr (by rwa [led])⟩,?_⟩
  omega

theorem narrow_widened {m : Nat} (finite : m < binary32.infinity) {wide : Nat}
    (widened : binary64.nearestScaled (binary32.significand m) (binary32.power m) = wide) :
    wide < binary64.infinity ∧
      binary32.nearestScaled (binary64.significand wide) (binary64.power wide) = m := by
  by_cases none : m = 0
  · subst none
    subst widened
    exact ⟨by decide,by decide⟩
  · obtain ⟨k,fits,within⟩ := widened_fits finite none
    have written : binary32.significand m ≠ 0 := fun zero => none ((significand_zero binary32).mp zero)
    have shifted : binary32.significand m * 2 ^ k ≠ 0 :=
      Nat.mul_ne_zero written (Nat.pos_iff_ne_zero.mp (Nat.two_pow_pos k))
    have same := nearestScaled_shift (f := binary64) (binary32.significand m) k (binary32.power m - k)
    have back := nearestScaled_shift (f := binary32) (binary32.significand m) k (binary32.power m - k)
    rw [Int.sub_add_cancel] at same back
    rw [← same,fits.nearest shifted] at widened
    obtain ⟨significand,power⟩ := fits.parts within
    rw [← widened,significand,power,back,(binary32.parts_fit m).nearest written,
      assemble_parts (Nat.le_of_lt finite)]
    refine ⟨?_,rfl⟩
    unfold assemble
    exact Nat.lt_of_le_of_lt (Nat.min_le_left _ _) within

namespace Double

theorem ofMagnitude_toNat (negative : Bool) {m : Nat} (short : m < binary64.signBit) :
    (ofMagnitude negative m).bits.toNat = (if negative then binary64.signBit else 0) + m := by
  have half : binary64.signBit = 2 ^ 63 := rfl
  unfold ofMagnitude
  rw [UInt64.toNat_ofNat']
  apply Nat.mod_eq_of_lt
  split <;> omega

theorem ofMagnitude_parts (negative : Bool) {m : Nat} (short : m < binary64.signBit) :
    (ofMagnitude negative m).negative = negative ∧ (ofMagnitude negative m).magnitude = m := by
  unfold Double.negative magnitude
  rw [ofMagnitude_toNat negative short]
  cases negative with
  | true =>
    rw [if_pos rfl,Nat.add_mod_left,Nat.mod_eq_of_lt short]
    simp
  | false =>
    rw [if_neg Bool.false_ne_true,Nat.zero_add,Nat.mod_eq_of_lt short]
    exact ⟨decide_eq_false (Nat.not_le.mpr short),rfl⟩

end Double

namespace Single

theorem ofMagnitude_own (x : Single) : ofMagnitude x.negative x.magnitude = x := by
  have half : binary32.signBit = 2 ^ 31 := rfl
  have bits := x.bits.toNat_lt
  have whole : (if x.negative = true then binary32.signBit else 0) + x.magnitude = x.bits.toNat := by
    unfold negative magnitude
    rw [half]
    by_cases below : 2 ^ 31 ≤ x.bits.toNat
    · rw [if_pos (decide_eq_true below)]
      omega
    · rw [if_neg (by simpa using below)]
      omega
  unfold ofMagnitude
  rw [whole,UInt32.ofNat_toNat]

-- Going to a double and back changes no single but a NaN.
theorem toDouble_toSingle {x : Single} (number : x.isNaN = false) : x.toDouble.toSingle = x := by
  have room : binary64.infinity < binary64.signBit := by decide
  unfold toDouble
  by_cases finite : x.magnitude < binary32.infinity
  · obtain ⟨within,back⟩ := narrow_widened finite rfl
    obtain ⟨sign,size⟩ := Double.ofMagnitude_parts x.negative (Nat.lt_trans within room)
    dsimp only
    rw [if_pos finite]
    unfold Double.toSingle Double.isFinite
    dsimp only
    rw [sign,size,if_pos (decide_eq_true within),back]
    exact x.ofMagnitude_own
  · have infinite : x.magnitude = binary32.infinity := by
      have above := of_decide_eq_false number
      omega
    obtain ⟨sign,size⟩ := Double.ofMagnitude_parts x.negative room
    dsimp only
    rw [if_neg finite,if_neg (by simp [number])]
    unfold Double.toSingle Double.isFinite Double.isNaN
    dsimp only
    rw [sign,size,if_neg (by simp),if_neg (by simp),← infinite]
    exact x.ofMagnitude_own

end Single

end DataAccess.Number
