import DataAccess.Load.ColumnType
import DataAccess.Proofs.Number.Widening
import Mathlib.Data.List.TakeDrop
import Mathlib.Data.List.TakeWhile
import Mathlib.Tactic.NormNum

-- Texts of whole numbers read as numbers with a fraction. Whatever is read as a whole number of
-- sixty-four bits is read as a double too, and as one that is finite.
namespace DataAccess.Number
open Format

theorem digitsFrom_digits {s : List Char} (read : digitsFrom sofar s = some n) :
    ∀ c ∈ s, c.isDigit = true := by
  induction s generalizing sofar with
  | nil => simp
  | cons c rest ih =>
    obtain ⟨d,own,further⟩ := Option.bind_eq_some_iff.mp read
    intro e member
    rcases List.mem_cons.mp member with rfl | later
    · unfold digit? at own
      split at own
      · assumption
      · cases own
    · exact ih further e later

theorem digits?_digits {s : List Char} (read : digits? s = some n) : ∀ c ∈ s, c.isDigit = true := by
  cases s with
  | nil => cases read
  | cons c rest => exact digitsFrom_digits read

theorem takeDigits_digits {s : List Char} (digits : ∀ c ∈ s, c.isDigit = true) :
    takeDigits s = (s,[]) := by
  rw [takeDigits,List.span_eq_takeWhile_dropWhile,List.takeWhile_eq_self_iff.mpr digits,
    List.dropWhile_eq_nil_iff.mpr digits]

theorem decimal?_digits {s : List Char} (read : digits? s = some n) : decimal? s = some (n,0) := by
  unfold decimal?
  rw [takeDigits_digits (digits?_digits read)]
  simp [read,exponent?]

theorem roundHalfEven_le (a b : Nat) : roundHalfEven a b ≤ a / b + 1 := by
  unfold roundHalfEven
  dsimp only
  split
  · omega
  · split
    · omega
    · omega

-- A whole number that is not too long, as the nearest of the doubles.
theorem nearest_finite {n : Nat} (short : n < 2 ^ 64) : binary64.nearest n 1 < binary64.infinity := by
  by_cases none : n = 0
  · subst none
    decide
  have led : binary64.leadingBit = 2 ^ 52 := rfl
  have least : binary64.leastPower = -1074 := rfl
  have bits : binary64.fractionBits = 52 := rfl
  have bound : binary64.infinity = 2047 * 2 ^ 52 := rfl
  have order : binaryOrder n 1 = Nat.log2 n := by simpa using binaryOrder_scaled none 0
  have length : Nat.log2 n < 64 := (Nat.log2_lt none).mpr short
  have above : n < 2 ^ (Nat.log2 n + 1) := Nat.lt_log2_self
  have power : max (binaryOrder n 1 - binary64.fractionBits) binary64.leastPower =
      (Nat.log2 n : Int) - 52 := by omega
  unfold nearest
  rw [if_neg none,power]
  dsimp only
  unfold assemble
  rw [least,led,bound]
  have raised : ((Nat.log2 n : Int) - 52 - -1074).toNat = Nat.log2 n + 1022 := by omega
  -- What is rounded has fifty-three digits before the point.
  have rounded : n * Nat.pow 2 (-((Nat.log2 n : Int) - 52)).toNat /
      (1 * Nat.pow 2 ((Nat.log2 n : Int) - 52).toNat) < 2 ^ 53 := by
    rw [Nat.one_mul,Nat.pow_eq,Nat.pow_eq,Nat.div_lt_iff_lt_mul (Nat.two_pow_pos _),← Nat.pow_add]
    have split : (53 : Nat) + ((Nat.log2 n : Int) - 52).toNat =
        Nat.log2 n + 1 + (-((Nat.log2 n : Int) - 52)).toNat := by omega
    rw [split,Nat.pow_add]
    exact Nat.mul_lt_mul_of_pos_right above (Nat.two_pow_pos _)
  have carried := Nat.le_trans (roundHalfEven_le _ _) rounded
  rw [raised]
  refine Nat.lt_of_le_of_lt (Nat.min_le_left _ _) ?_
  calc (Nat.log2 n + 1022) * 2 ^ 52 + _ ≤ 1085 * 2 ^ 52 + 2 ^ 53 :=
        Nat.add_le_add (Nat.mul_le_mul_right _ (by omega)) carried
    _ < 2047 * 2 ^ 52 := by norm_num

theorem nearestDecimal_finite {n : Nat} (short : n < 2 ^ 64) :
    nearestDecimal n 0 < binary64.infinity := by
  have digits : (Nat.toDigits 10 n).length ≤ 20 :=
    (Nat.length_toDigits_le_iff (by omega) (by omega)).mpr (Nat.lt_trans short (by norm_num))
  unfold nearestDecimal
  dsimp only
  split
  · exact Nat.mul_pos (Nat.sub_pos_of_lt (Nat.one_lt_two_pow (by decide))) (leadingBit_pos _)
  · rw [if_neg (by omega)]
    simpa using nearest_finite short

-- A whole number is read by its sign and its digits, and a double of the same text by the same ones.
theorem readInt?_double {s : List Char} (read : readInt? s = some n) : ∃ negative digits size,
    digits? digits = some size ∧ n.natAbs = size ∧
      readDouble? s = unsignedDouble? negative digits := by
  unfold readInt? at read
  split at read
  · obtain ⟨size,digits,rfl⟩ := Option.map_eq_some_iff.mp read
    exact ⟨false,_,size,digits,rfl,rfl⟩
  · obtain ⟨_,digital,rfl⟩ := Option.map_eq_some_iff.mp read
    obtain ⟨size,digits,⟨⟩⟩ := Option.bind_eq_some_iff.mp digital
    exact ⟨true,_,size,digits,Int.natAbs_neg _,rfl⟩
  · rename_i plus minus
    obtain ⟨size,digits,rfl⟩ := Option.map_eq_some_iff.mp read
    refine ⟨false,s,size,digits,rfl,?_⟩
    unfold readDouble?
    split
    · exact absurd rfl (plus _)
    · exact absurd rfl (minus _)
    · rfl

theorem readInt64?_finite {s : List Char} (read : readInt64? s = some n) :
    ∃ x, Load.ColumnType.readFinite? s = some x := by
  obtain ⟨number,whole,fits⟩ := Option.bind_eq_some_iff.mp read
  obtain ⟨negative,digits,size,digital,same,double⟩ := readInt?_double whole
  have short : size < 2 ^ 64 := by
    have least : Int64.minValue.toInt = -2 ^ 63 := by decide
    have greatest : Int64.maxValue.toInt = 2 ^ 63 - 1 := by decide
    unfold int64? at fits
    split at fits
    · omega
    · cases fits
  have finite := nearestDecimal_finite short
  have room : binary64.infinity < binary64.signBit := by decide
  obtain ⟨_,magnitude⟩ := Double.ofMagnitude_parts negative (Nat.lt_trans finite room)
  refine ⟨Double.ofMagnitude negative (nearestDecimal size 0),?_⟩
  unfold Load.ColumnType.readFinite? unsignedDouble? at *
  rw [double,decimal?_digits digital]
  refine Option.filter_eq_some_iff.mpr ⟨rfl,decide_eq_true ?_⟩
  rwa [magnitude]

end DataAccess.Number
