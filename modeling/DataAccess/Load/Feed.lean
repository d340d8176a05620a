import DataAccess.Csv.Document
import DataAccess.Load.Options
import DataAccess.Load.TableSchema

-- What the reading half of a load hands over: the columns with their types, inferred from the first
-- records, and then all records in chunks. Chunks are full but the last one; where the source is at
-- fault, the chunk under way is dropped and the fault stands in its place.
namespace DataAccess.Load

def chunks (size : Nat) (l : List α) : List (List α) :=
  if size = 0 ∨ l = [] then [] else l.take size :: chunks size (l.drop size)
termination_by l.length
decreasing_by
  rename_i h
  have : l.length ≠ 0 := by
    intro zero
    exact h (Or.inr (List.length_eq_zero_iff.1 zero))
  simp only [List.length_drop]
  omega

structure Feed where
  schema : TableSchema
  sampled : Nat
  chunks : List (List Csv.Record)
  fault : Option CsvFault
  deriving DecidableEq, Repr

def recordChunks (size : Nat) (records : List Csv.Record) (faulty : Bool) :
    List (List Csv.Record) :=
  if faulty then (chunks size records).filter (·.length = size) else chunks size records

-- The feed of a document, or why nothing can be loaded from it: its header is none, a full
-- chunk would be too large, or it is at fault within the sample.
def feed (options : Options) (document : Csv.Document) : Except Error Feed := do
  let header ← document.header.mapError .csv
  if header.all Text.isAllBlank then throw (.validation .noHeader)
  let schema ← TableSchema.ofHeaders header
  checkBindLimit options.chunkSize schema.columns.length
  let sample := document.records.take options.sampleSize
  match document.fault with
  | some fault => if sample.length < options.sampleSize then throw (.csv fault)
  | none => pure ()
  return {
    schema := schema.observeAll (sample.map Csv.Record.fields)
    sampled := sample.length
    chunks := recordChunks options.chunkSize document.records document.fault.isSome
    fault := document.fault }

end DataAccess.Load
