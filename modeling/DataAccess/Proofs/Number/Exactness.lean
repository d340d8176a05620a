import Mathlib.Algebra.Group.Nat.Defs
import DataAccess.Number.Binary

-- Rounding that loses nothing. A significand with a power of two, as a format has them, is nearest
-- to the magnitude that is put together of the two; and the magnitude has just these parts. What is
-- rounded is the same however the power of two is spread over the fraction.
namespace DataAccess.Number

theorem log2_shift {s : Nat} (some : s ≠ 0) (k : Nat) : Nat.log2 (s * 2 ^ k) = Nat.log2 s + k := by
  have shifted : s * 2 ^ k ≠ 0 := Nat.mul_ne_zero some (Nat.pos_iff_ne_zero.mp (Nat.two_pow_pos k))
  rw [Nat.log2_eq_iff shifted]
  have low := Nat.log2_self_le some
  have high := @Nat.lt_log2_self s
  constructor
  · rw [Nat.pow_add]
    exact Nat.mul_le_mul_right _ low
  · rw [Nat.add_right_comm,Nat.pow_add]
    exact Nat.mul_lt_mul_of_pos_right high (Nat.two_pow_pos k)

theorem binaryOrder_shift {a b : Nat} (some : a ≠ 0) (whole : b ≠ 0) (k : Nat) :
    binaryOrder (a * 2 ^ k) (b * 2 ^ k) = binaryOrder a b := by
  have order : ((Nat.log2 a + k : Nat) : Int) - (Nat.log2 b + k : Nat) =
      (Nat.log2 a : Int) - Nat.log2 b := by omega
  unfold binaryOrder
  rw [log2_shift some,log2_shift whole,order]
  dsimp only
  rw [Nat.mul_right_comm,Nat.mul_right_comm b]
  simp only [Nat.mul_lt_mul_right (Nat.two_pow_pos k)]

theorem binaryOrder_scaled {s : Nat} (some : s ≠ 0) (p : Int) :
    binaryOrder (s * 2 ^ p.toNat) (2 ^ (-p).toNat) = Nat.log2 s + p := by
  have one : Nat.log2 (2 ^ (-p).toNat) = (-p).toNat := Nat.log2_two_pow
  have order : ((Nat.log2 s + p.toNat : Nat) : Int) - (-p).toNat = Nat.log2 s + p := by omega
  have low := Nat.log2_self_le some
  unfold binaryOrder
  rw [log2_shift some,one,order]
  dsimp only
  apply if_neg
  -- The powers on both sides differ by that of the leading bit of the significand.
  have split : p.toNat + (-(Nat.log2 s + p)).toNat + Nat.log2 s =
      (-p).toNat + (Nat.log2 s + p : Int).toNat := by omega
  rw [Nat.pow_eq,Nat.pow_eq,Nat.not_lt,Nat.mul_assoc,← Nat.pow_add,← Nat.pow_add,← split,Nat.pow_add,
    Nat.mul_comm]
  exact Nat.mul_le_mul_right _ low

theorem roundHalfEven_shift (a b k : Nat) :
    roundHalfEven (a * 2 ^ k) (b * 2 ^ k) = roundHalfEven a b := by
  unfold roundHalfEven
  rw [Nat.mul_div_mul_right _ _ (Nat.two_pow_pos k),Nat.mul_mod_mul_right,← Nat.mul_assoc]
  simp only [Nat.mul_lt_mul_right (Nat.two_pow_pos k)]

theorem roundHalfEven_exact (quotient : Nat) {denominator : Nat} (whole : 0 < denominator) :
    roundHalfEven (quotient * denominator) denominator = quotient := by
  unfold roundHalfEven
  rw [Nat.mul_div_cancel _ whole,Nat.mul_mod_left]
  exact if_pos whole

namespace Format

variable {f : Format}

theorem nearest_shift {a b : Nat} (whole : b ≠ 0) (k : Nat) :
    f.nearest (a * 2 ^ k) (b * 2 ^ k) = f.nearest a b := by
  by_cases none : a = 0
  · rw [none,Nat.zero_mul]
    rfl
  · have shifted : a * 2 ^ k ≠ 0 := Nat.mul_ne_zero none (Nat.pos_iff_ne_zero.mp (Nat.two_pow_pos k))
    unfold nearest
    rw [if_neg none,if_neg shifted,binaryOrder_shift none whole]
    dsimp only
    rw [Nat.mul_right_comm,Nat.mul_right_comm b,roundHalfEven_shift]

-- Powers of two may be moved from the significand to the power.
theorem nearestScaled_shift (s k : Nat) (p : Int) :
    f.nearestScaled (s * 2 ^ k) p = f.nearestScaled s (p + k) := by
  unfold nearestScaled
  simp only [Nat.pow_eq]
  by_cases positive : 0 ≤ p
  · have numerator : s * 2 ^ k * 2 ^ p.toNat = s * 2 ^ (p + k).toNat := by
      rw [Nat.mul_assoc,← Nat.pow_add]
      congr 2
      omega
    have denominator : (-p).toNat = (-(p + k)).toNat := by omega
    rw [numerator,denominator]
  · by_cases short : p + k ≤ 0
    · have split : (-p).toNat = (-(p + k)).toNat + k := by omega
      have none : p.toNat = 0 := by omega
      have later : (p + k).toNat = 0 := by omega
      rw [none,later,split,Nat.pow_zero,Nat.mul_one,Nat.mul_one,Nat.pow_add]
      exact nearest_shift (Nat.pos_iff_ne_zero.mp (Nat.two_pow_pos _)) k
    · have split : k = (p + k).toNat + (-p).toNat := by omega
      have none : p.toNat = 0 := by omega
      have later : (-(p + k)).toNat = 0 := by omega
      have numerator : s * 2 ^ k = s * 2 ^ (p + k).toNat * 2 ^ (-p).toNat := by
        rw [Nat.mul_assoc,← Nat.pow_add,← split]
      have shifted := @nearest_shift f (s * 2 ^ (p + k).toNat) 1 Nat.one_ne_zero (-p).toNat
      rw [none,later,numerator,Nat.pow_zero,Nat.mul_one]
      rwa [Nat.one_mul] at shifted

-- A significand and a power as the format has them: the leading bit is missing only from the numbers
-- that have the least power.
structure Fits (f : Format) (s : Nat) (p : Int) : Prop where
  least : f.leastPower ≤ p
  below : s < 2 * f.leadingBit
  filled : p = f.leastPower ∨ f.leadingBit ≤ s

theorem leadingBit_pos (f : Format) : 0 < f.leadingBit := Nat.two_pow_pos _

theorem Fits.order {s : Nat} {p : Int} (fits : f.Fits s p) (some : s ≠ 0) :
    max ((Nat.log2 s : Int) + p - f.fractionBits) f.leastPower = p := by
  have below : Nat.log2 s < f.fractionBits + 1 := by
    apply (Nat.log2_lt some).mpr
    rw [Nat.pow_succ,Nat.mul_comm]
    exact fits.below
  have least := fits.least
  rcases fits.filled with same | led
  · omega
  · have reached : f.fractionBits ≤ Nat.log2 s := (Nat.le_log2 some).mpr led
    omega

theorem Fits.nearest {s : Nat} {p : Int} (fits : f.Fits s p) (some : s ≠ 0) :
    f.nearestScaled s p = f.assemble s p := by
  have shifted : s * 2 ^ p.toNat ≠ 0 :=
    Nat.mul_ne_zero some (Nat.pos_iff_ne_zero.mp (Nat.two_pow_pos _))
  unfold nearestScaled Format.nearest
  simp only [Nat.pow_eq]
  rw [if_neg shifted,binaryOrder_scaled some,fits.order some]
  congr 1
  rw [Nat.mul_assoc,Nat.mul_comm (2 ^ p.toNat)]
  exact roundHalfEven_exact s (Nat.mul_pos (Nat.two_pow_pos _) (Nat.two_pow_pos _))

theorem parts_fit (f : Format) (m : Nat) : f.Fits (f.significand m) (f.power m) := by
  have fraction : f.fractionField m < f.leadingBit := Nat.mod_lt m f.leadingBit_pos
  unfold significand power
  by_cases least : f.exponentField m = 0
  · rw [if_pos least,if_pos least]
    exact ⟨Int.le_refl _,by omega,.inl rfl⟩
  · rw [if_neg least,if_neg least]
    exact ⟨by omega,by omega,.inr (Nat.le_add_right _ _)⟩

theorem assemble_parts {m : Nat} (within : m ≤ f.infinity) :
    f.assemble (f.significand m) (f.power m) = m := by
  have whole : f.leadingBit * f.exponentField m + f.fractionField m = m := Nat.div_add_mod m _
  unfold assemble significand power
  by_cases least : f.exponentField m = 0
  · rw [if_pos least,if_pos least]
    rw [least,Nat.mul_zero,Nat.zero_add] at whole
    rw [whole,Int.sub_self,Int.toNat_zero,Nat.zero_mul,Nat.zero_add]
    exact Nat.min_eq_left within
  · rw [if_neg least,if_neg least]
    have raised : (f.leastPower + f.exponentField m - 1 - f.leastPower).toNat =
        f.exponentField m - 1 := by omega
    have placed : (f.exponentField m - 1) * f.leadingBit + (f.leadingBit + f.fractionField m) = m := by
      rw [← Nat.add_assoc,← Nat.succ_mul,Nat.succ_eq_add_one,Nat.sub_add_cancel (by omega),Nat.mul_comm]
      exact whole
    rw [raised,placed]
    exact Nat.min_eq_left within

theorem Fits.parts {s : Nat} {p : Int} (fits : f.Fits s p)
    (finite : (p - f.leastPower).toNat * f.leadingBit + s < f.infinity) :
    f.significand (f.assemble s p) = s ∧ f.power (f.assemble s p) = p := by
  have below := fits.below
  have least := fits.least
  have positive := f.leadingBit_pos
  unfold assemble
  rw [Nat.min_eq_left (Nat.le_of_lt finite)]
  generalize raised : (p - f.leastPower).toNat = n
  by_cases led : f.leadingBit ≤ s
  · obtain ⟨t,rfl⟩ := Nat.exists_eq_add_of_le led
    have fraction : t < f.leadingBit := by omega
    have split : n * f.leadingBit + (f.leadingBit + t) = t + (n + 1) * f.leadingBit := by
      rw [Nat.succ_mul]
      omega
    unfold significand power exponentField fractionField
    rw [split,Nat.add_mul_div_right _ _ positive,Nat.add_mul_mod_self_right,Nat.div_eq_of_lt fraction,
      Nat.mod_eq_of_lt fraction,Nat.zero_add,if_neg (Nat.succ_ne_zero n),if_neg (Nat.succ_ne_zero n)]
    exact ⟨rfl,by omega⟩
  · have short := Nat.lt_of_not_le led
    obtain rfl := fits.filled.resolve_right led
    have none : n = 0 := by omega
    unfold significand power exponentField fractionField
    rw [none,Nat.zero_mul,Nat.zero_add,Nat.div_eq_of_lt short,Nat.mod_eq_of_lt short]
    exact ⟨rfl,rfl⟩

end Format

end DataAccess.Number
