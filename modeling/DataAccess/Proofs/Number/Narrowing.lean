import DataAccess.Proofs.Number.Denotation
import DataAccess.Proofs.Number.WholeNumbers
import Mathlib.Algebra.Order.Field.Power
import Mathlib.Tactic.Linarith
import Mathlib.Tactic.NormNum

-- Doubles as singles. The nearest single is finite as long as the double is nearer to the greatest
-- single than to two to the hundred and twenty-eighth; halfway between the two the even one is
-- taken, which is an infinity.
namespace DataAccess.Number
open Format

theorem roundHalfEven_ge (a b : Nat) : a / b ≤ roundHalfEven a b := by
  unfold roundHalfEven
  dsimp only
  split
  · exact Nat.le_refl _
  · split <;> omega

-- An odd quotient is kept only below the half after it.
theorem roundHalfEven_odd {a b : Nat} (odd : a / b % 2 = 1) :
    roundHalfEven a b = a / b ↔ 2 * (a % b) < b := by
  unfold roundHalfEven
  dsimp only
  split
  · simpa
  · split <;> omega

-- What is rounded stays below an even number exactly if it is below the half before that.
theorem roundHalfEven_lt {a b n : Nat} (whole : 0 < b) (some : 0 < n) (even : n % 2 = 0) :
    roundHalfEven a b < n ↔ 2 * a < (2 * n - 1) * b := by
  have low := roundHalfEven_ge a b
  have high := roundHalfEven_le a b
  have split : b * (a / b) + a % b = a := Nat.div_add_mod a b
  have rest := Nat.mod_lt a whole
  have half : (2 * n - 1) * b + b = 2 * (b * n) := by
    rw [← Nat.succ_mul,Nat.succ_eq_add_one,Nat.sub_add_cancel (by omega),Nat.mul_assoc,Nat.mul_comm n]
  rcases Nat.lt_trichotomy (a / b + 1) n with short | last | past
  · have room := Nat.mul_le_mul_left b (show a / b + 2 ≤ n by omega)
    rw [Nat.mul_add] at room
    exact iff_of_true (by omega) (by omega)
  · have own := roundHalfEven_odd (a := a) (b := b) (by omega)
    rw [← last,Nat.mul_add b] at half
    rw [← last]
    omega
  · have room := Nat.mul_le_mul_left b (show n ≤ a / b by omega)
    exact iff_of_false (by omega) (by omega)

-- The numerator and the denominator that are rounded stand for the number in units of a power of two.
theorem ratio_lt {s n : Nat} {p q : Int} :
    s * 2 ^ p.toNat * 2 ^ (-q).toNat < n * (2 ^ (-p).toNat * 2 ^ q.toNat) ↔
      (s : ℚ) * 2 ^ p < n * 2 ^ q := by
  have under : (0 : ℚ) < (2 ^ (-p).toNat : Nat) := by positivity
  have beyond : (0 : ℚ) < (2 ^ (-q).toNat : Nat) := by positivity
  rw [scaled_eq,scaled_eq,div_lt_div_iff₀ under beyond,← Nat.cast_mul,← Nat.cast_mul,Nat.cast_lt,
    Nat.mul_assoc n,Nat.mul_comm (2 ^ q.toNat)]

theorem scaled_order {s : Nat} (some : s ≠ 0) (p : Int) :
    (2 : ℚ) ^ (Nat.log2 s + p) ≤ s * 2 ^ p ∧ (s : ℚ) * 2 ^ p < 2 ^ (Nat.log2 s + 1 + p) := by
  have positive : (0 : ℚ) < 2 ^ p := by positivity
  have low : ((2 ^ Nat.log2 s : Nat) : ℚ) ≤ s := Nat.cast_le.mpr (Nat.log2_self_le some)
  have high : (s : ℚ) < (2 ^ (Nat.log2 s + 1) : Nat) := Nat.cast_lt.mpr Nat.lt_log2_self
  rw [zpow_add₀ two_ne_zero,zpow_add₀ two_ne_zero]
  refine ⟨mul_le_mul_of_nonneg_right ?_ positive.le,mul_lt_mul_of_pos_right ?_ positive⟩
  · exact_mod_cast low
  · exact_mod_cast high

-- What is rounded has at most twenty-four digits before the point, and just as many where the power
-- of two is told by the leading bit.
theorem quotient_lt {s : Nat} (some : s ≠ 0) {p q : Int} (reach : Nat.log2 s + p - 23 ≤ q) :
    s * 2 ^ p.toNat * 2 ^ (-q).toNat / (2 ^ (-p).toNat * 2 ^ q.toNat) < 2 ^ 24 := by
  have whole := Nat.mul_pos (Nat.two_pow_pos (-p).toNat) (Nat.two_pow_pos q.toNat)
  have next : (s : ℚ) * 2 ^ p < 2 ^ (24 + q) :=
    (scaled_order some p).2.trans_le (zpow_le_zpow_right₀ one_le_two (by omega))
  rw [zpow_add₀ two_ne_zero] at next
  exact (Nat.div_lt_iff_lt_mul whole).mpr (ratio_lt.mpr (by exact_mod_cast next))

theorem quotient_ge {s : Nat} (some : s ≠ 0) {p q : Int} (reach : Nat.log2 s + p - 23 = q) :
    2 ^ 23 ≤ s * 2 ^ p.toNat * 2 ^ (-q).toNat / (2 ^ (-p).toNat * 2 ^ q.toNat) := by
  have whole := Nat.mul_pos (Nat.two_pow_pos (-p).toNat) (Nat.two_pow_pos q.toNat)
  have same : Nat.log2 s + p = 23 + q := by omega
  have led := (scaled_order some p).1
  rw [same,zpow_add₀ two_ne_zero] at led
  have reached : ((2 ^ 23 : Nat) : ℚ) * 2 ^ q ≤ s * 2 ^ p := by exact_mod_cast led
  exact (Nat.le_div_iff_mul_le whole).mpr (Nat.not_lt.mp (mt ratio_lt.mp (not_lt.mpr reached)))

-- What is assembled is short of infinity by its significand and its power.
theorem assembled_finite {r : Nat} {q : Int} (least : -149 ≤ q) :
    binary32.assemble r q < binary32.infinity ↔ (q + 149).toNat * 2 ^ 23 + r < 255 * 2 ^ 23 := by
  have led : binary32.leadingBit = 2 ^ 23 := rfl
  have start : binary32.leastPower = -149 := rfl
  have bound : binary32.infinity = 255 * 2 ^ 23 := rfl
  unfold assemble
  rw [led,start,bound]
  omega

-- Halfway between the greatest single and two to the hundred and twenty-eighth.
theorem greatest_half {s : Nat} {p : Int} :
    ((2 * s : Nat) : ℚ) * 2 ^ p < (2 * 2 ^ 24 - 1 : Nat) * 2 ^ (104 : Int) ↔
      (s : ℚ) * 2 ^ p < 2 ^ 128 - 2 ^ 103 := by
  push_cast
  rw [mul_assoc]
  norm_num
  constructor <;> intro short <;> linarith

-- The nearest single to a number is finite exactly below that half, which is taken for infinity. Told
-- apart is the power of two: below that of the greatest singles, the same, and above.
theorem nearestScaled_finite {s : Nat} (some : s ≠ 0) (p : Int) :
    binary32.nearestScaled s p < binary32.infinity ↔ (s : ℚ) * 2 ^ p < 2 ^ 128 - 2 ^ 103 := by
  have shifted : s * 2 ^ p.toNat ≠ 0 := Nat.mul_ne_zero some (Nat.pos_iff_ne_zero.mp (Nat.two_pow_pos _))
  have start : binary32.leastPower = -149 := rfl
  have bits : binary32.fractionBits = 23 := rfl
  obtain ⟨low,high⟩ := scaled_order some p
  unfold nearestScaled Format.nearest
  simp only [Nat.pow_eq]
  rw [if_neg shifted,binaryOrder_scaled some,start,bits]
  generalize power : max (Nat.log2 s + p - (23 : Nat)) (-149) = q
  have quotient := quotient_lt some (show Nat.log2 s + p - 23 ≤ q by omega)
  rw [assembled_finite (by omega)]
  rcases Int.lt_trichotomy q 104 with short | last | past
  · have rounded := roundHalfEven_le (s * 2 ^ p.toNat * 2 ^ (-q).toNat) (2 ^ (-p).toNat * 2 ^ q.toNat)
    have small : (s : ℚ) * 2 ^ p < 2 ^ (127 : Int) :=
      high.trans_le (zpow_le_zpow_right₀ one_le_two (by omega))
    exact iff_of_true (by omega) (small.trans (by norm_num))
  · subst last
    have whole := Nat.mul_pos (Nat.two_pow_pos (-p).toNat) (Nat.two_pow_pos (104 : Int).toNat)
    have half := roundHalfEven_lt (a := s * 2 ^ p.toNat * 2 ^ (-104 : Int).toNat) whole
      (show 0 < 2 ^ 24 by decide) (by decide)
    rw [← Nat.mul_assoc,← Nat.mul_assoc,ratio_lt,greatest_half] at half
    rw [← half]
    omega
  · have led := quotient_ge some (show Nat.log2 s + p - 23 = q by omega)
    have rounded := roundHalfEven_ge (s * 2 ^ p.toNat * 2 ^ (-q).toNat) (2 ^ (-p).toNat * 2 ^ q.toNat)
    have great : (2 : ℚ) ^ (128 : Int) ≤ s * 2 ^ p :=
      (zpow_le_zpow_right₀ one_le_two (by omega)).trans low
    refine iff_of_false (by omega) (not_lt.mpr (le_trans ?_ great))
    norm_num

theorem Format.nearestScaled_le (f : Format) (s : Nat) (p : Int) : f.nearestScaled s p ≤ f.infinity := by
  unfold nearestScaled Format.nearest
  split
  · exact Nat.zero_le _
  · exact Nat.min_le_right _ _

theorem Single.ofMagnitude_magnitude (negative : Bool) {m : Nat} (short : m < binary32.signBit) :
    (ofMagnitude negative m).magnitude = m := by
  have half : binary32.signBit = 2 ^ 31 := rfl
  unfold ofMagnitude magnitude
  rw [UInt32.toNat_ofNat',half]
  split <;> omega

def Single.infinite (negative : Bool) : Single := ofMagnitude negative binary32.infinity

namespace Double

-- The single that a number becomes has the sign of the number and the nearest magnitude.
theorem toSingle_number {x : Double} (number : x.isFinite) : ∃ m ≤ binary32.infinity,
    x.toSingle = Single.ofMagnitude x.negative m ∧ x.toSingle.magnitude = m ∧
      (m < binary32.infinity ↔ |x.value| < 2 ^ 128 - 2 ^ 103) := by
  have room : binary32.infinity < binary32.signBit := by decide
  have within := binary32.nearestScaled_le (binary64.significand x.magnitude) (binary64.power x.magnitude)
  have narrowed : x.toSingle = Single.ofMagnitude x.negative
      (binary32.nearestScaled (binary64.significand x.magnitude) (binary64.power x.magnitude)) := by
    unfold toSingle
    dsimp only
    rw [if_pos number]
  refine ⟨_,within,narrowed,?_,?_⟩
  · rw [narrowed,Single.ofMagnitude_magnitude _ (Nat.lt_of_le_of_lt within room)]
  · rw [abs_value]
    unfold size
    by_cases none : binary64.significand x.magnitude = 0
    · rw [none,Nat.cast_zero,zero_mul]
      refine iff_of_true ?_ (by norm_num)
      unfold nearestScaled
      rw [Nat.zero_mul]
      exact (by decide : 0 < binary32.infinity)
    · exact nearestScaled_finite none _

theorem toSingle_finite {x : Double} (number : x.isFinite) :
    x.toSingle.magnitude < binary32.infinity ↔ |x.value| < 2 ^ 128 - 2 ^ 103 := by
  obtain ⟨m,_,_,same,finite⟩ := toSingle_number number
  rw [same]
  exact finite

-- A number that is finite no more as a single is an infinity of its sign.
theorem toSingle_infinite {x : Double} (number : x.isFinite) (great : 2 ^ 128 - 2 ^ 103 ≤ |x.value|) :
    x.toSingle = Single.infinite x.negative := by
  obtain ⟨m,within,narrowed,_,finite⟩ := toSingle_number number
  have reached : binary32.infinity ≤ m := Nat.not_lt.mp (mt finite.mp (not_lt.mpr great))
  rw [narrowed,Nat.le_antisymm within reached]
  rfl

end Double

end DataAccess.Number
