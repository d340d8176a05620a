import DataAccess.Proofs.Load.Headers
import DataAccess.Proofs.Load.Inference
import Mathlib.Logic.Relation
import Mathlib.Order.Bounds.Basic

-- Inference as a join. The types of columns are ordered by what they hold, and two of them are
-- widened to the least type above both. So a column gets the least type above those of its cells,
-- in whatever order the records come and however often one of them does.
namespace DataAccess.Load

namespace ColumnType

-- From a type to the next ones that hold more.
inductive Widens : ColumnType → ColumnType → Prop
  | counted : Widens unknown integer
  | measured : Widens integer float
  | written : Widens float text
  | dated : Widens unknown date
  | spelled : Widens date text

def rank : ColumnType → Nat
  | unknown => 0
  | integer => 1
  | float => 2
  | date => 2
  | text => 3

theorem Widens.rank_lt (widens : Widens narrow wide) : narrow.rank < wide.rank := by
  cases widens <;> decide

def Below : ColumnType → ColumnType → Prop := Relation.ReflTransGen Widens

theorem Below.rank_lt (below : Below narrow wide) : narrow = wide ∨ narrow.rank < wide.rank := by
  induction below with
  | refl => exact .inl rfl
  | tail _ widens ih =>
    have further := widens.rank_lt
    rcases ih with rfl | lower
    · exact .inr further
    · exact .inr (Nat.lt_trans lower further)

theorem Below.antisymm (below : Below a b) (above : Below b a) : a = b := by
  rcases below.rank_lt with same | lower
  · exact same
  · rcases above.rank_lt with same | higher
    · exact same.symm
    · exact absurd lower (Nat.lt_asymm higher)

theorem unknown_below (type : ColumnType) : Below unknown type := by
  have whole : Below unknown integer := .single .counted
  cases type with
  | unknown => exact .refl
  | integer => exact whole
  | float => exact .tail whole .measured
  | date => exact .single .dated
  | text => exact .tail (.single .dated) .spelled

theorem below_text (type : ColumnType) : Below type text := by
  have measured : Below float text := .single .written
  cases type with
  | unknown => exact unknown_below text
  | integer => exact .head .measured measured
  | float => exact measured
  | date => exact .single .spelled
  | text => exact .refl

theorem within_cases (within : Within narrow wide) :
    narrow = wide ∨ narrow = unknown ∨ wide = text ∨ (narrow = integer ∧ wide = float) := by
  cases narrow <;> cases wide <;> cases within <;> simp

theorem within_trans {a b c : ColumnType} (first : Within a b) (second : Within b c) : Within a c := by
  cases a <;> cases b <;> cases first <;> cases c <;> cases second <;> rfl

-- What widening finds to be narrower is what is below.
theorem below_iff_within : Below narrow wide ↔ Within narrow wide := by
  constructor
  · intro below
    induction below with
    | refl => cases narrow <;> rfl
    | tail _ widens ih =>
      refine within_trans ih ?_
      cases widens <;> rfl
  · intro within
    rcases within_cases within with rfl | rfl | rfl | ⟨rfl,rfl⟩
    · exact .refl
    · exact unknown_below wide
    · exact below_text narrow
    · exact .single .measured

theorem widen_within {a b wide : ColumnType} (first : Within a wide) (second : Within b wide) :
    Within (a.widen b) wide := by
  cases a <;> cases wide <;> cases first <;> cases b <;> cases second <;> rfl

instance : PartialOrder ColumnType where
  le := Below
  le_refl _ := .refl
  le_trans _ _ _ := .trans
  le_antisymm _ _ := Below.antisymm

instance : SemilatticeSup ColumnType where
  sup := widen
  le_sup_left a b := below_iff_within.mpr (within_widen a b).1
  le_sup_right a b := below_iff_within.mpr (within_widen a b).2
  sup_le _ _ _ first second :=
    below_iff_within.mpr (widen_within (below_iff_within.mp first) (below_iff_within.mp second))

instance : OrderBot ColumnType where
  bot := unknown
  bot_le := unknown_below

end ColumnType

-- The types of the cells of a column, of those that are not blank.
def cellTypes (records : List (List String)) (column : Nat) : Set ColumnType :=
  {type | ∃ record ∈ records, ∃ cell, record[column]? = some cell ∧ Text.isAllBlank cell = false ∧
    type = .ofCell cell}

theorem cellTypes_nil (column : Nat) : cellTypes [] column = ∅ := by
  simp [cellTypes]

theorem cellTypes_append (records others : List (List String)) (column : Nat) :
    cellTypes (records ++ others) column = cellTypes records column ∪ cellTypes others column := by
  ext type
  simp [cellTypes,or_and_right,exists_or]

theorem cellTypes_same {records others : List (List String)} (same : ∀ r, r ∈ records ↔ r ∈ others)
    (column : Nat) : cellTypes records column = cellTypes others column := by
  ext type
  simp [cellTypes,same]

namespace TableSchema

theorem observeCells_at (columns : List (String × ColumnType)) (cells : List String) (i : Nat) :
    (observeCells columns cells)[i]? = (columns[i]?).map fun column =>
      (column.1,(cells[i]?).elim column.2 (widenBy column.2)) := by
  induction columns generalizing cells i with
  | nil => simp [observeCells]
  | cons column columns ih =>
    cases cells with
    | nil => simp [observeCells]
    | cons cell cells =>
      cases i with
      | zero => rfl
      | succ i => exact ih cells i

theorem widenBy_le_iff (type above : ColumnType) (record : List String) (i : Nat) :
    (record[i]?).elim type (widenBy type) ≤ above ↔
      type ≤ above ∧ ∀ own ∈ cellTypes [record] i, own ≤ above := by
  cases given : record[i]? with
  | none => simp [cellTypes,given]
  | some cell =>
    by_cases blank : Text.isAllBlank cell = true
    · simp [cellTypes,given,widenBy,blank]
    · have widened : widenBy type cell = type ⊔ .ofCell cell := if_neg blank
      simp [cellTypes,given,blank,widened]

-- A column is below a type after a sample if it was before and all cells of the sample are.
theorem observeAll_le_iff (schema : TableSchema) {records : List (List String)} {i : Nat}
    {name : String} {type : ColumnType} (before : schema.columns[i]? = some (name,type)) :
    ∃ after, (schema.observeAll records).columns[i]? = some (name,after) ∧
      ∀ above, after ≤ above ↔ type ≤ above ∧ ∀ own ∈ cellTypes records i, own ≤ above := by
  induction records generalizing schema type with
  | nil => exact ⟨type,before,fun above => by simp [cellTypes_nil]⟩
  | cons record records ih =>
    have step : (schema.observe record).columns[i]? =
        some (name,(record[i]?).elim type (widenBy type)) := by
      rw [observe,observeCells_at,before]
      rfl
    obtain ⟨after,there,bounds⟩ := ih (schema.observe record) step
    refine ⟨after,there,fun above => ?_⟩
    have split : cellTypes (record :: records) i = cellTypes [record] i ∪ cellTypes records i :=
      cellTypes_append [record] records i
    rw [bounds,widenBy_le_iff,and_assoc,split]
    simp only [Set.mem_union,or_imp,forall_and]

section Header
variable {headers : List String} {header : TableSchema} (read : ofHeaders headers = .ok header)
include read

theorem inferred_length (records : List (List String)) :
    (header.observeAll records).columns.length = headers.length :=
  (columns_length (header.observeAll_names records)).trans (ofHeaders_columns read).1

-- The column that a header makes, after a sample.
theorem inferred_at (records : List (List String)) {i : Nat} {raw : String}
    (given : headers[i]? = some raw) : ∃ type,
      (header.observeAll records).columns[i]? = some (headerName raw,type) ∧
        IsLUB (cellTypes records i) type := by
  obtain ⟨_,_,_,rfl⟩ := ofHeaders_ok.mp read
  have before : (headers.map fun raw => (headerName raw,ColumnType.unknown))[i]? =
      some (headerName raw,.unknown) := by
    rw [List.getElem?_map,given]
    rfl
  obtain ⟨type,there,bounds⟩ := observeAll_le_iff ⟨_⟩ before
  refine ⟨type,there,isLUB_iff_le_iff.mpr fun above => ?_⟩
  rw [bounds]
  exact and_iff_right bot_le

theorem inferred_eq (records : List (List String)) {columns : List (String × ColumnType)}
    (length : columns.length = headers.length)
    (joined : ∀ i raw, headers[i]? = some raw → ∃ type, columns[i]? = some (headerName raw,type) ∧
      IsLUB (cellTypes records i) type) : (header.observeAll records).columns = columns := by
  refine List.ext_getElem? fun i => ?_
  cases given : headers[i]? with
  | none =>
    have beyond := List.getElem?_eq_none_iff.mp given
    rw [List.getElem?_eq_none (inferred_length read records ▸ beyond),
      List.getElem?_eq_none (length ▸ beyond)]
  | some raw =>
    obtain ⟨type,there,least⟩ := inferred_at read records given
    obtain ⟨other,here,again⟩ := joined i raw given
    rw [there,here,least.unique again]

theorem inferred_append (records others : List (List String)) :
    (header.observeAll (records ++ others)).columns =
      List.zipWith (fun column other => (column.1,column.2.widen other.2))
        (header.observeAll records).columns (header.observeAll others).columns := by
  refine inferred_eq read (records ++ others) ?_ fun i raw given => ?_
  · rw [List.length_zipWith,inferred_length read,inferred_length read,Nat.min_self]
  · obtain ⟨type,there,least⟩ := inferred_at read records given
    obtain ⟨other,here,again⟩ := inferred_at read others given
    refine ⟨type.widen other,by rw [List.getElem?_zipWith,there,here],?_⟩
    rw [cellTypes_append]
    exact least.union again

end Header

-- The type of a column is the least that is above those of its cells; so it only goes up with further
-- records, and two samples together give the types that those of each are widened to.
theorem inference_joins {headers : List String} {header : TableSchema}
    (read : ofHeaders headers = .ok header) :
    (∀ records, (header.observeAll records).columns.length = headers.length ∧
      ∀ (i : Nat) raw, headers[i]? = some raw → ∃ type,
        (header.observeAll records).columns[i]? = some (headerName raw,type) ∧
          IsLUB (cellTypes records i) type) ∧
    (∀ records others, (∀ r, r ∈ records ↔ r ∈ others) →
      header.observeAll records = header.observeAll others) ∧
    (∀ (records more : List (List String)) (i : Nat) raw, headers[i]? = some raw → ∃ type wider,
      (header.observeAll records).columns[i]? = some (headerName raw,type) ∧
        (header.observeAll (records ++ more)).columns[i]? = some (headerName raw,wider) ∧
          type ≤ wider) ∧
    ∀ records others, (header.observeAll (records ++ others)).columns =
      List.zipWith (fun column other => (column.1,column.2.widen other.2))
        (header.observeAll records).columns (header.observeAll others).columns := by
  refine ⟨fun records => ⟨inferred_length read records,fun i raw => inferred_at read records⟩,?_,?_,
    inferred_append read⟩
  · intro records others same
    have equal := inferred_eq read records (inferred_length read others) fun i raw given =>
      cellTypes_same same i ▸ inferred_at read others given
    exact congrArg TableSchema.mk equal
  · intro records more i raw given
    obtain ⟨type,there,least⟩ := inferred_at read records given
    obtain ⟨wider,here,further⟩ := inferred_at read (records ++ more) given
    refine ⟨type,wider,there,here,least.mono further ?_⟩
    rw [cellTypes_append]
    exact Set.subset_union_left

-- A record without the second column, one with a third, a blank cell, and a record that comes twice.
theorem inference_joins_uneven :
    ofHeaders ["n"," When"] = .ok ⟨[("n",.unknown),("when",.unknown)]⟩ ∧
    observeAll ⟨[("n",.unknown),("when",.unknown)]⟩ [["7"],[" ","2023-01-15","x"],["1.5","soon"]] =
      observeAll ⟨[("n",.unknown),("when",.unknown)]⟩
        [["1.5","soon"],["7"],[" ","2023-01-15","x"],["7"]] ∧
    ∃ type, (observeAll ⟨[("n",.unknown),("when",.unknown)]⟩ [["7"],["1.5","soon"]]).columns[0]? =
        some ("n",type) ∧ IsLUB (cellTypes [["7"],["1.5","soon"]] 0) type := by
  have read : ofHeaders ["n"," When"] = .ok ⟨[("n",.unknown),("when",.unknown)]⟩ := by decide +kernel
  obtain ⟨joined,same,_⟩ := inference_joins read
  refine ⟨read,same _ _ fun r => ?_,?_⟩
  · simp only [List.mem_cons,List.not_mem_nil,or_false]
    constructor
    · rintro (rfl | rfl | rfl) <;> simp
    · rintro (rfl | rfl | rfl | rfl) <;> simp
  · exact (joined _).2 0 "n" rfl

end TableSchema

end DataAccess.Load
