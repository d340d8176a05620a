import DataAccess.Number.Integer
import DataAccess.Proofs.Text.Ends
import DataAccess.Proofs.Text.Letters
import Mathlib.Algebra.Group.Nat.Defs

-- Numbers that are written in digits are read back, with zeros before them or not. A number of
-- sixty-four bits is read back from its text, sign and all.
namespace DataAccess.Number
open Text

theorem digitsFrom_eq {s : List Char} (digits : ∀ c ∈ s, c.isDigit = true) (sofar : Nat) :
    digitsFrom sofar s = some (Nat.ofDigitChars 10 s sofar) := by
  induction s generalizing sofar with
  | nil => rfl
  | cons c s ih =>
    obtain ⟨own,others⟩ := List.forall_mem_cons.mp digits
    rw [digitsFrom,digit?,if_pos own,Option.bind_some,ih others,Nat.ofDigitChars_cons]

theorem digits?_eq {s : List Char} (some : s ≠ []) (digits : ∀ c ∈ s, c.isDigit = true) :
    digits? s = .some (Nat.ofDigitChars 10 s 0) := by
  cases s with
  | nil => exact absurd rfl some
  | cons c s => exact digitsFrom_eq digits 0

theorem toDigits_digits (n : Nat) : ∀ c ∈ Nat.toDigits 10 n, c.isDigit = true := fun _ =>
  Nat.isDigit_of_mem_toDigits (by decide) (by decide)

theorem digits?_toDigits (n : Nat) : digits? (Nat.toDigits 10 n) = some n := by
  rw [digits?_eq Nat.toDigits_ne_nil (toDigits_digits n),
    Nat.ofDigitChars_toDigits (by decide) (by decide)]

theorem padded_digits (width n : Nat) : ∀ c ∈ padded width n, c.isDigit = true := by
  intro c member
  rcases List.mem_append.mp member with zero | own
  · rw [List.eq_of_mem_replicate zero]
    rfl
  · exact toDigits_digits n c own

theorem padded_some (width n : Nat) : padded width n ≠ [] := by
  simp [padded,Nat.toDigits_ne_nil]

theorem digits?_padded (width n : Nat) : digits? (padded width n) = some n := by
  rw [digits?_eq (padded_some width n) (padded_digits width n),padded,Nat.ofDigitChars_append,
    Nat.ofDigitChars_replicate_zero,Nat.mul_zero,Nat.ofDigitChars_toDigits (by decide) (by decide)]

theorem padded_length {width n : Nat} (some : 0 < width) (fits : n < 10 ^ width) :
    (padded width n).length = width := by
  have short := (Nat.length_toDigits_le_iff (by decide) some).mpr fits
  rw [padded,List.length_append,List.length_replicate]
  omega

theorem readInt?_digits {s : List Char} (some : s ≠ []) (digits : ∀ c ∈ s, c.isDigit = true) :
    readInt? s = (digits? s).map Int.ofNat := by
  cases s with
  | nil => exact absurd rfl some
  | cons c s =>
    have own := digits c (by simp)
    unfold readInt?
    split
    · rename_i plus
      cases plus
      cases own
    · rename_i minus
      cases minus
      cases own
    · rfl

theorem toString_digits (n : Int) :
    (toString n).toList = (if n < 0 then ['-'] else []) ++ Nat.toDigits 10 n.natAbs := by
  cases n with
  | ofNat n => exact String.toList_ofList
  | negSucc n =>
    change ("-" ++ String.ofList (Nat.toDigits 10 (n + 1))).toList = _
    rw [String.toList_append,if_pos (Int.negSucc_lt_zero n)]
    exact congrArg ('-' :: ·) String.toList_ofList

theorem readInt?_toString (n : Int) : readInt? (toString n).toList = some n := by
  rw [toString_digits]
  split
  · rename_i negative
    have signed : -(n.natAbs : Int) = n := by omega
    rw [List.singleton_append,readInt?,digits?_toDigits]
    exact congrArg some signed
  · rename_i positive
    have plain : Int.ofNat n.natAbs = n := Int.natAbs_of_nonneg (by omega)
    rw [List.nil_append,readInt?_digits Nat.toDigits_ne_nil (toDigits_digits _),digits?_toDigits]
    exact congrArg some plain

theorem readInt64?_toString (n : Int64) : readInt64? (toString n.toInt).toList = some n := by
  have low := n.minValue_le_toInt
  have high := n.toInt_le
  rw [readInt64?,readInt?_toString,Option.bind_some,int64?,if_pos ⟨low,by omega⟩,Int64.ofInt_toInt]

theorem isBlank_of_digit {c : Char} (digit : c.isDigit = true) : isBlank c = false :=
  isBlank_of_alphanum (isAlphanum_iff.mpr (.inr digit))

theorem padded_solid (width n : Nat) : Solid (padded width n) :=
  ⟨padded_some width n,fun c member => isBlank_of_digit (padded_digits width n c member)⟩

theorem toString_solid (n : Int) : Solid (toString n).toList := by
  rw [toString_digits]
  refine ⟨List.append_ne_nil_of_right_ne_nil _ Nat.toDigits_ne_nil,fun c member => ?_⟩
  rcases List.mem_append.mp member with sign | digit
  · split at sign
    · rw [List.mem_singleton.mp sign]
      rfl
    · cases sign
  · exact isBlank_of_digit (toDigits_digits _ c digit)

end DataAccess.Number
