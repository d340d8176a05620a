import DataAccess.Load.Loader
import DataAccess.Session.Execution

-- Inserting records in chunks, each by one statement. The fields of the record type are the
-- columns.
namespace DataAccess.Load
open Query

def recordsInsert (shape : Shape) (table : String) (rows : List Row) : Insert :=
  (Insert.forRecord shape table).records rows

def insertRowChunks (shape : Shape) (table : String) :
    Report → List (List Row) → LoadTask ρ Report
  | report,[] => return report
  | report,rows :: rest => do
    let affected ← report.after (recordsInsert shape table rows).execute
    report.after (Db.log (.recordsChunk table rows.length))
    insertRowChunks shape table (report.add affected) rest

def insertRecords (type : RecordType σ) (table : String) (records : List σ) (chunkSize : Nat) :
    LoadTask ρ Report := do
  if chunkSize = 0 then throw (.atStart (.validation .zeroChunk))
  if records.isEmpty then throw (.atStart (.validation (.noRecords table)))
  Report.empty.after (checkBindLimit chunkSize type.fields.length)
  let _ ← Report.empty.after (Ident.parse table)
  let report ← insertRowChunks type.toShape table Report.empty
    (chunks chunkSize (records.map type.toValues))
  report.after (Db.log (.recordsInserted table report.rowsInserted report.batches))
  return report

end DataAccess.Load
