import DataAccess.Wire.Bytes

-- What is written as bytes is read back from them: unsigned words, and signed numbers within their
-- width.
namespace DataAccess.Wire

theorem words_succ (width : Nat) : words (width + 1) = 256 * words width := by
  rw [words,Nat.pow_eq,Nat.pow_succ,Nat.mul_comm]
  rfl

theorem words_pos (width : Nat) : 0 < words width := Nat.pow_pos (by decide)

theorem ofNat_length (width n : Nat) : (ofNat width n).length = width := by
  induction width generalizing n with
  | zero => rfl
  | succ width ih => rw [ofNat,List.length_cons,ih]

-- The induction carries along what was read before: it counts for a whole word each step.
theorem foldl_ofNat {width n : Nat} (fits : n < words width) (sofar : Nat) :
    (ofNat width n).foldl (fun n b => 256 * n + b.toNat) sofar = words width * sofar + n := by
  induction width generalizing n sofar with
  | zero =>
    have zero : n = 0 := Nat.lt_one_iff.mp fits
    rw [zero,words,Nat.pow_eq,Nat.pow_zero,Nat.one_mul]
    rfl
  | succ width ih =>
    have first : (UInt8.ofNat (n / words width)).toNat = n / words width := by
      rw [words_succ,Nat.mul_comm] at fits
      exact UInt8.toNat_ofNat_of_lt' (Nat.div_lt_of_lt_mul fits)
    have split := Nat.div_add_mod n (words width)
    rw [ofNat,List.foldl_cons,ih (Nat.mod_lt n (words_pos width)),first,words_succ,Nat.mul_add,
      Nat.add_assoc,split,Nat.mul_assoc,Nat.mul_left_comm]

theorem toNat_ofNat {width n : Nat} (fits : n < words width) : toNat (ofNat width n) = n := by
  rw [toNat,foldl_ofNat fits,Nat.mul_zero,Nat.zero_add]

theorem word?_ofNat {width n : Nat} (fits : n < words width) :
    word? width (ofNat width n) = some n := by
  rw [word?,if_pos (ofNat_length width n),toNat_ofNat fits]

-- The numbers that a signed word of a width can be.
def Signed (width : Nat) (n : Int) : Prop := -(words width : Int) ≤ 2 * n ∧ 2 * n < words width

theorem signed?_ofInt {width : Nat} {n : Int} (fits : Signed width n) :
    signed? width (ofInt width n) = some n := by
  obtain ⟨low,high⟩ := fits
  have positive := words_pos width
  have inside : (n % words width).toNat < words width := by
    have bound := Int.emod_lt_of_pos n (Int.natCast_pos.mpr positive)
    omega
  rw [signed?,ofInt,if_pos (ofNat_length _ _),toInt,toNat_ofNat inside,ofNat_length]
  by_cases negative : n < 0
  · have shifted : n % words width = n + words width := by
      rw [← Int.add_emod_right,Int.emod_eq_of_lt (by omega) (by omega)]
    rw [shifted,if_neg (by omega)]
    exact congrArg some (by omega)
  · rw [Int.emod_eq_of_lt (by omega) (by omega),if_pos (by omega)]
    exact congrArg some (by omega)

end DataAccess.Wire
