import DataAccess.Proofs.Number.Denotation
import DataAccess.Proofs.Record.Coercion
import Mathlib.Tactic.NormNum

-- Doubles that are read into whole fields. One that stands for a whole number with room in
-- sixty-four bits becomes that number, and any other is refused; but the least of those numbers is
-- refused too, since the sizes that are let through are the same for both signs.
namespace DataAccess
open Number

theorem Number.int64?_some {n : Int} {i : Int64} : int64? n = some i ↔ n = i.toInt := by
  have least : Int64.minValue.toInt = -2 ^ 63 := by decide
  have greatest : Int64.maxValue.toInt = 2 ^ 63 - 1 := by decide
  have low := i.minValue_le_toInt
  have high := i.toInt_le
  unfold int64?
  constructor
  · intro read
    split at read
    · rename_i inside
      cases read
      rw [Int64.toInt_ofInt_of_le]
      · omega
      · omega
    · cases read
  · intro same
    rw [same,if_pos ⟨low,high⟩,Int64.ofInt_toInt]

theorem wholeInt64?_some {x : Double} {i : Int64} :
    wholeInt64? x = some i ↔ x.Denotes i.toInt ∧ i.toInt ≠ -2 ^ 63 := by
  have half : UInt64.size / 2 = 2 ^ 63 := by decide
  have low := i.le_toInt
  have high := i.toInt_lt
  unfold wholeInt64?
  rw [half]
  constructor
  · intro read
    obtain ⟨n,whole,within⟩ := Option.bind_eq_some_iff.mp read
    split at within
    · rename_i short
      cases int64?_some.mp within
      exact ⟨Double.toInt?_some.mp whole,by omega⟩
    · cases within
  · rintro ⟨stands,above⟩
    rw [Double.toInt?_some.mpr stands,Option.bind_some,if_pos (by omega)]
    exact int64?_some.mpr rfl

-- A whole number with room in sixty-four bits that a double stands for.
def StandsForInt64 (x : Double) (n : Int) : Prop := x.Denotes n ∧ -2 ^ 63 ≤ n ∧ n ≤ 2 ^ 63 - 1

theorem StandsForInt64.int64 (stands : StandsForInt64 x n) : ∃ i : Int64, i.toInt = n := by
  obtain ⟨_,low,high⟩ := stands
  exact ⟨Int64.ofInt n,Int64.toInt_ofInt_of_le (by omega) (by omega)⟩

theorem Number.Double.Denotes.int64 {i : Int64} (stands : x.Denotes i.toInt) :
    StandsForInt64 x i.toInt := by
  have low := i.le_toInt
  have high := i.toInt_lt
  exact ⟨stands,by omega,by omega⟩

-- What tells that a double cannot be read into a whole field.
def Field.refusal (field : Field) (x : Double) : Error :=
  .dataMapping field.name (.unconvertible "float" (String.ofList x.text) "Int")

-- How a double should be read into a whole field: as the number that it stands for, if that is whole
-- and has room, and with an error of the field otherwise.
structure Field.ReadsExactly (field : Field) (x : Double) : Prop where
  read : (∃ v, field.coerce (.float x) = .ok v) ↔ ∃ n, StandsForInt64 x n
  same : ∀ v, field.coerce (.float x) = .ok v → ∃ i : Int64, v = .int i ∧ x.Denotes i.toInt
  other : (∀ n, ¬StandsForInt64 x n) → field.coerce (.float x) = .error (field.refusal x)

section Whole

variable {field : Field} {x : Double}

theorem coerce_double (whole : field.type = .int) (x : Double) : field.coerce (.float x) =
    match wholeInt64? x with
    | some i => .ok (.int i)
    | none => .error (field.refusal x) := by
  have converted : FieldType.int.convert? (.float x) = (wholeInt64? x).map .int := rfl
  unfold Field.coerce Field.refusal
  rw [whole,converted]
  cases wholeInt64? x <;> rfl

theorem coerce_double_ok (whole : field.type = .int) : field.coerce (.float x) = .ok v ↔
    ∃ i : Int64, v = .int i ∧ x.Denotes i.toInt ∧ i.toInt ≠ -2 ^ 63 := by
  simp only [← wholeInt64?_some]
  rw [coerce_double whole]
  cases wholeInt64? x with
  | some i => simp [eq_comm]
  | none => simp

theorem coerce_double_error (whole : field.type = .int)
    (unread : ∀ i : Int64, x.Denotes i.toInt → i.toInt = -2 ^ 63) :
    field.coerce (.float x) = .error (field.refusal x) := by
  rw [coerce_double whole]
  cases read : wholeInt64? x with
  | none => rfl
  | some i =>
    obtain ⟨stands,above⟩ := wholeInt64?_some.mp read
    exact absurd (unread i stands) above

theorem cast_least : ((-2 ^ 63 : Int) : ℚ) = -2 ^ 63 := by norm_num

-- Every double is read as it should be but the one that stands for the least number with room, which
-- is refused like one that has none.
theorem reads_exactly_iff (field : Field) (whole : field.type = .int) (x : Double) :
    (field.ReadsExactly x ↔ ¬x.Denotes (-2 ^ 63)) ∧
      (x.Denotes (-2 ^ 63) → field.coerce (.float x) = .error (field.refusal x)) := by
  rw [← cast_least]
  have least {i : Int64} (below : x.Denotes (-2 ^ 63 : Int)) (stands : x.Denotes i.toInt) :
      i.toInt = -2 ^ 63 := Int.cast_inj.mp (stands.unique below)
  refine ⟨⟨?_,fun above => ⟨⟨?_,?_⟩,?_,?_⟩⟩,?_⟩
  · intro exactly below
    obtain ⟨v,made⟩ := exactly.read.mpr ⟨-2 ^ 63,below,by omega,by omega⟩
    obtain ⟨i,_,stands,other⟩ := (coerce_double_ok whole).mp made
    exact other (least below stands)
  · rintro ⟨v,made⟩
    obtain ⟨i,_,stands,_⟩ := (coerce_double_ok whole).mp made
    exact ⟨i.toInt,stands.int64⟩
  · rintro ⟨n,room⟩
    obtain ⟨i,rfl⟩ := room.int64
    refine ⟨.int i,(coerce_double_ok whole).mpr ⟨i,rfl,room.1,fun same => above ?_⟩⟩
    rw [← same]
    exact room.1
  · intro v made
    obtain ⟨i,same,stands,_⟩ := (coerce_double_ok whole).mp made
    exact ⟨i,same,stands⟩
  · intro none
    exact coerce_double_error whole fun i stands => absurd stands.int64 (none _)
  · intro below
    exact coerce_double_error whole fun i stands => least below stands

end Whole

namespace Whole

def field : Field := ⟨0,"n",.int,false⟩

-- The least number with room, and the greatest double that has any.
def least : Double := ⟨0xc3e0000000000000⟩

def greatest : Double := ⟨0x43dfffffffffffff⟩

theorem least_denotes : least.Denotes (-2 ^ 63 : Int) := by
  have parts : least.negative = true ∧ Format.binary64.significand least.magnitude = 2 ^ 52 ∧
      Format.binary64.power least.magnitude = 11 := by decide +kernel
  refine ⟨by decide +kernel,?_⟩
  unfold Double.value Double.size
  rw [parts.1,parts.2.1,parts.2.2]
  norm_num

theorem greatest_denotes : greatest.Denotes (9223372036854774784 : Int) := by
  have parts : greatest.negative = false ∧ Format.binary64.significand greatest.magnitude = 2 ^ 53 - 1 ∧
      Format.binary64.power greatest.magnitude = 10 := by decide +kernel
  refine ⟨by decide +kernel,?_⟩
  unfold Double.value Double.size
  rw [parts.1,parts.2.1,parts.2.2]
  norm_num

end Whole

theorem reads_exactly_greatest : Whole.field.type = .int ∧ Whole.field.ReadsExactly Whole.greatest ∧
    Whole.greatest.Denotes (9223372036854774784 : Int) ∧
    Whole.field.coerce (.float Whole.least) = .error (Whole.field.refusal Whole.least) := by
  have above : ¬Whole.greatest.Denotes (-2 ^ 63) := by
    intro below
    have same := Whole.greatest_denotes.unique below
    norm_num at same
  refine ⟨rfl,(reads_exactly_iff Whole.field rfl Whole.greatest).1.mpr above,Whole.greatest_denotes,?_⟩
  exact (reads_exactly_iff Whole.field rfl Whole.least).2 (cast_least ▸ Whole.least_denotes)

-- The least number with room is a whole number of sixty-four bits all the same.
theorem not_always_exactly :
    ¬∀ (field : Field) (x : Double), field.type = .int → field.ReadsExactly x := by
  intro exactly
  have unread : wholeInt64? Whole.least = none := by decide +kernel
  obtain ⟨v,made⟩ := (exactly Whole.field Whole.least rfl).read.mpr
    ⟨-2 ^ 63,Whole.least_denotes,by omega,by omega⟩
  rw [coerce_double rfl,unread] at made
  cases made

end DataAccess
