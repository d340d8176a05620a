import DataAccess.Proofs.Load.Inserts
import DataAccess.Proofs.Load.Slices

-- What the reading half hands over, when it hands over anything: columns that can be filled a chunk
-- at a time, and records as wide as there are columns.
namespace DataAccess

namespace Csv

theorem decodeFields_length {index : Nat} {fields : List Text.Bytes} {texts : List String}
    (decoded : decodeFields index fields = .ok texts) : texts.length = fields.length := by
  induction fields generalizing index texts with
  | nil =>
    cases decoded
    rfl
  | cons field fields ih =>
    unfold decodeFields at decoded
    split at decoded
    · cases decoded
    · split at decoded
      · cases decoded
      · rename_i further
        cases decoded
        exact congrArg (· + 1) (ih further)

theorem RawRecord.decode_length {raw : RawRecord} {number : Nat} {texts : List String}
    (decoded : raw.decode number = .ok texts) : texts.length = raw.fields.length := by
  unfold RawRecord.decode at decoded
  split at decoded
  · rename_i read
    cases decoded
    exact decodeFields_length read
  · cases decoded

theorem RawRecord.check_width {raw : RawRecord} {number width : Nat} {record : Record}
    (passed : raw.check number width = .ok record) : record.fields.length = width := by
  unfold RawRecord.check at passed
  split at passed
  · cases passed
  · rename_i even
    split at passed
    · cases passed
    · rename_i fields decoded
      cases passed
      exact (RawRecord.decode_length decoded).trans (Decidable.of_not_not even)

theorem checkAll_width (width : Nat) (fault : Option CsvFault) (number : Nat) (raws : List RawRecord) :
    ∀ r ∈ (checkAll width fault number raws).1, r.fields.length = width := by
  induction raws generalizing number with
  | nil => simp [checkAll]
  | cons raw raws ih =>
    unfold checkAll
    split
    · simp
    · rename_i record passed
      intro r member
      rcases List.mem_cons.mp member with rfl | later
      · exact RawRecord.check_width passed
      · exact ih (number + 1) r later

theorem Source.document_width {source : Source} {header : List String}
    (read : source.document.header = .ok header) :
    ∀ r ∈ source.document.records, r.fields.length = header.length := by
  unfold Source.document at read ⊢
  dsimp only at read ⊢
  split at read
  · split <;> simp
  · rename_i first raws _
    have width := RawRecord.decode_length read
    rw [width]
    exact checkAll_width _ _ 1 raws

end Csv

namespace Load
open Failure

namespace TableSchema

theorem namesAfter_length (read : namesAfter seen raws = .ok names) : names.length = raws.length := by
  induction raws generalizing seen names with
  | nil =>
    cases read
    rfl
  | cons raw raws ih =>
    unfold namesAfter at read
    split at read
    · cases read
    · split at read
      · cases read
      · split at read
        · cases read
        · rename_i others further
          cases read
          exact congrArg (· + 1) (ih further)

theorem ofHeaders_columns (read : ofHeaders headers = .ok schema) :
    schema.columns.length = headers.length ∧ schema.columns ≠ [] := by
  unfold ofHeaders at read
  split at read
  · cases read
  · cases read
  · rename_i names some named
    cases read
    refine ⟨?_,by simpa using some⟩
    rw [List.length_map,namesAfter_length named]

theorem columns_length {schema other : TableSchema} (same : other.columnNames = schema.columnNames) :
    other.columns.length = schema.columns.length := by
  simpa [columnNames] using congrArg List.length same

theorem observeAll_names (schema : TableSchema) (records : List (List String)) :
    (schema.observeAll records).columnNames = schema.columnNames := by
  induction records generalizing schema with
  | nil => rfl
  | cons record records ih => exact (ih (schema.observe record)).trans (observe_names schema record)

end TableSchema

theorem Fillable.renamed {schema other : TableSchema} (fillable : Fillable schema size)
    (same : other.columnNames = schema.columnNames) : Fillable other size := by
  have counted := TableSchema.columns_length same
  refine ⟨by rw [same]; exact fillable.named,?_,by rw [counted]; exact fillable.within⟩
  intro empty
  rw [empty] at counted
  exact fillable.some (List.length_eq_zero_iff.mp counted.symm)

theorem within_of_checked (checked : checkBindLimit size columns = .ok u) :
    size * columns ≤ maxParameters := by
  have limit : maxParameters < maxCount := by decide
  unfold checkBindLimit boundByChunk at checked
  split at checked
  · cases checked
  · omega

-- What is handed over of a document, if anything is.
structure Handed (options : Options) (document : Csv.Document) (feed : Feed) : Prop where
  fillable : Fillable feed.schema options.chunkSize
  width : ∃ header, document.header = .ok header ∧ feed.schema.columns.length = header.length
  sampled : feed.sampled = min options.sampleSize document.records.length
  chunks : feed.chunks = recordChunks options.chunkSize document.records document.fault.isSome
  fault : feed.fault = document.fault
  past : document.fault.isSome → options.sampleSize ≤ document.records.length

-- What is handed over of a document, as its header and its first records make it.
def feedOf (options : Options) (document : Csv.Document) (header : TableSchema) : Feed where
  schema := header.observeAll ((document.records.take options.sampleSize).map Csv.Record.fields)
  sampled := (document.records.take options.sampleSize).length
  chunks := recordChunks options.chunkSize document.records document.fault.isSome
  fault := document.fault

theorem feed_ok {options : Options} {document : Csv.Document} {handed : Feed}
    (read : feed options document = .ok handed) : ∃ names header, document.header = .ok names ∧
      names.all Text.isAllBlank = false ∧ TableSchema.ofHeaders names = .ok header ∧
      checkBindLimit options.chunkSize header.columns.length = .ok () ∧
      (document.fault.isSome → options.sampleSize ≤ document.records.length) ∧
      handed = feedOf options document header := by
  unfold feed at read
  obtain ⟨names,first,read⟩ := bind_eq_ok.mp read
  dsimp only at read
  have own : document.header = .ok names := by
    cases same : document.header with
    | error fault => rw [same] at first; cases first
    | ok others => rw [same] at first; cases first; rfl
  by_cases blank : names.all Text.isAllBlank = true
  · rw [if_pos blank] at read
    cases read
  rw [if_neg blank] at read
  obtain ⟨header,made,read⟩ := bind_eq_ok.mp read
  obtain ⟨_,checked,read⟩ := bind_eq_ok.mp read
  refine ⟨names,header,own,by simpa using blank,made,checked,?_⟩
  split at read
  · by_cases short : (document.records.take options.sampleSize).length < options.sampleSize
    · rw [if_pos short] at read
      cases read
    · rw [if_neg short] at read
      cases read
      rw [List.length_take] at short
      exact ⟨fun _ => by omega,rfl⟩
  · rename_i sound
    cases read
    exact ⟨by simp [sound],rfl⟩

theorem feed_handed {options : Options} {document : Csv.Document} {handed : Feed}
    (read : feed options document = .ok handed) : Handed options document handed := by
  obtain ⟨names,header,own,_,made,checked,past,rfl⟩ := feed_ok read
  obtain ⟨counted,some⟩ := TableSchema.ofHeaders_columns made
  have fillable : Fillable header options.chunkSize :=
    ⟨TableSchema.ofHeaders_named made,some,within_of_checked checked⟩
  have same := header.observeAll_names
    ((document.records.take options.sampleSize).map Csv.Record.fields)
  refine ⟨fillable.renamed same,⟨names,own,?_⟩,List.length_take,rfl,rfl,past⟩
  exact (TableSchema.columns_length same).trans counted

end Load

end DataAccess
