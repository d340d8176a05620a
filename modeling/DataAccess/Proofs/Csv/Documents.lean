import DataAccess.Csv.Document

-- Where a document stops. Its records are those of the source up to the first that is not text or
-- not as wide as the header, or up to where the source itself gives out.
namespace DataAccess.Csv

-- Text in every field, and so many fields.
def RawRecord.Fits (raw : RawRecord) (width : Nat) : Prop :=
  raw.fields.length = width ∧ ∀ field ∈ raw.fields, (Text.ofUtf8? field).isSome

namespace Source

def raws (source : Source) : List RawRecord := rawRecords source.ending.fault?.isNone source.bytes

-- One of the first so many records behind the header does not fit, or cannot be read to its end.
def BrokenWithin (source : Source) (n : Nat) : Prop :=
  (∃ (i : Nat) (head raw : RawRecord), i < n ∧ source.raws.head? = some head ∧
    source.raws.tail[i]? = some raw ∧ ¬raw.Fits head.fields.length) ∨
  source.ending ≠ .complete ∧ source.raws.tail.length < n

end Source

theorem Ending.fault?_none {ending : Ending} : ending.fault? = none ↔ ending = .complete := by
  cases ending <;> simp [fault?]

theorem decodeFields_ok {fields : List Text.Bytes} (index : Nat) :
    (∃ texts, decodeFields index fields = .ok texts) ↔
      ∀ field ∈ fields, (Text.ofUtf8? field).isSome := by
  induction fields generalizing index with
  | nil => simp [decodeFields]
  | cons field fields ih =>
    unfold decodeFields
    cases decoded : Text.ofUtf8? field with
    | none => simp [decoded]
    | some text =>
      have rest := ih (index + 1)
      cases further : decodeFields (index + 1) fields with
      | error e =>
        have some : ¬∀ field ∈ fields, (Text.ofUtf8? field).isSome := by
          intro all
          obtain ⟨texts,read⟩ := rest.mpr all
          cases further.symm.trans read
        simpa [decoded] using some
      | ok texts => simpa [decoded] using rest.mp ⟨texts,further⟩

theorem RawRecord.check_ok {raw : RawRecord} (number width : Nat) :
    (∃ record, raw.check number width = .ok record) ↔ raw.Fits width := by
  unfold RawRecord.check RawRecord.Fits RawRecord.decode
  rw [← decodeFields_ok 0]
  by_cases even : raw.fields.length = width
  · rw [if_neg (not_not_intro even)]
    cases decodeFields 0 raw.fields <;> simp [even]
  · simp [even]

-- Reading goes on while the records fit; the first that does not is the fault.
theorem checkAll_stops {raws : List RawRecord} {width : Nat} (fault : Option CsvFault) (number n : Nat) :
    ((checkAll width fault number raws).2.isSome ∧ (checkAll width fault number raws).1.length < n) ↔
      (∃ (i : Nat) (raw : RawRecord), i < n ∧ raws[i]? = some raw ∧ ¬raw.Fits width) ∨
        fault.isSome ∧ raws.length < n := by
  induction raws generalizing number n with
  | nil => simp [checkAll]
  | cons raw raws ih =>
    unfold checkAll
    cases checked : raw.check number width with
    | error e =>
      have unfit : ¬raw.Fits width := by
        intro fits
        obtain ⟨record,read⟩ := (RawRecord.check_ok number width).mpr fits
        cases checked.symm.trans read
      constructor
      · intro stops
        exact .inl ⟨0,raw,stops.2,rfl,unfit⟩
      · intro broken
        refine ⟨rfl,?_⟩
        rcases broken with ⟨i,_,within,_⟩ | ⟨_,short⟩
        · exact Nat.zero_lt_of_lt within
        · exact Nat.zero_lt_of_lt short
    | ok record =>
      have fits : raw.Fits width := (RawRecord.check_ok number width).mp ⟨record,checked⟩
      cases n with
      | zero => simp
      | succ n =>
        have further := ih (number + 1) n
        simp only [List.length_cons,Nat.add_lt_add_iff_right] at further ⊢
        rw [further]
        constructor
        · rintro (⟨i,other,within,at_i,unfit⟩ | short)
          · exact .inl ⟨i + 1,other,Nat.succ_lt_succ within,at_i,unfit⟩
          · exact .inr short
        · rintro (⟨i,other,within,at_i,unfit⟩ | short)
          · cases i with
            | zero =>
              cases at_i
              exact absurd fits unfit
            | succ i => exact .inl ⟨i,other,Nat.lt_of_succ_lt_succ within,at_i,unfit⟩
          · exact .inr short

namespace Source

variable {source : Source}

theorem document_unheaded (unheaded : source.raws = []) :
    source.document = ⟨source.ending.fault?.elim (.ok []) .error,[],none⟩ := by
  unfold raws at unheaded
  simp only [document,unheaded]
  cases source.ending.fault? <;> rfl

theorem document_headed {head : RawRecord} {rest : List RawRecord} (split : source.raws = head :: rest) :
    source.document = ⟨head.decode 0,(checkAll head.fields.length source.ending.fault? 1 rest).1,
      (checkAll head.fields.length source.ending.fault? 1 rest).2⟩ := by
  unfold raws at split
  simp only [document,split]

-- A document with a header stops early exactly where the source is broken.
theorem document_broken {header : List String} (read : source.document.header = .ok header) (n : Nat) :
    (source.document.fault.isSome ∧ source.document.records.length < n) ↔ source.BrokenWithin n := by
  unfold BrokenWithin
  cases split : source.raws with
  | nil =>
    rw [document_unheaded split] at read ⊢
    cases ending : source.ending.fault? with
    | some fault =>
      rw [ending] at read
      cases read
    | none => simp [Ending.fault?_none.mp ending]
  | cons head rest =>
    have ending : source.ending ≠ .complete ↔ source.ending.fault?.isSome := by
      rw [Ne,← Ending.fault?_none]
      cases source.ending.fault? <;> simp
    rw [document_headed split,checkAll_stops,ending]
    simp

end Source

end DataAccess.Csv
