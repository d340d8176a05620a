import DataAccess.Load.Feed
import DataAccess.Load.Path
import DataAccess.Query.Insert
import DataAccess.Session.Db

-- Loading a CSV source into a table. All that can be checked without the database is checked first;
-- then the table is prepared, and the chunks of the feed are inserted one by one, each by one
-- statement, until a chunk fails or the feed ends.
namespace DataAccess.Load
open Query

abbrev LoadTask (ρ α : Type) := ExceptT Stopped (StateM (Db ρ)) α

def Report.after (report : Report) (task : Task ρ α) : LoadTask ρ α :=
  fun db =>
    match task db with
    | (.ok a,db) => (.ok a,db)
    | (.error e,db) => (.error (report.stop e),db)

-- Whether a table exists, by the rows that tell it. No rows are taken for no.
def existence (rows : List Row) : Except Error Bool :=
  match rows.head?.bind List.head? with
  | some v => v.toBool.mapError (.dataMapping "exists")
  | none => .ok false

def textCell (row : Row) (index : Nat) (column : String) : Except Error String :=
  ((row[index]?).getD Value.null).toText.mapError (.dataMapping column)

def declaredColumns : List Row → Except Error (List (String × String))
  | [] => .ok []
  | row :: rows => do
    let name ← textCell row 0 "column_name"
    let type ← textCell row 1 "data_type"
    return (name,type) :: (← declaredColumns rows)

def askExists (table : Ident) : Task ρ Bool := do
  existence (← Db.queryRows (tableExists table))

def makeTable (options : Options) (table : Ident) (schema : TableSchema) :
    Task ρ TableSchema := do
  let s := schema.createTable table options.autoIncrement
  Db.log (.tableStatement s.sql options.logCreateTableQuery)
  let _ ← Db.execute s
  Db.log (.tableCreated table.sql schema.columns.length)
  return schema

-- Prepares the table, and gives the columns as they are to be filled. A table that is there and
-- was not dropped stays as it is, and its columns fix the types.
def prepareTable (options : Options) (table : Ident) (schema : TableSchema) :
    Task ρ TableSchema := do
  if options.dropIfExists then
    let _ ← Db.execute (dropTable table)
    Db.log (.tableDropped table.sql)
    makeTable options table schema
  else if ← askExists table then
    let declared ← declaredColumns (← Db.queryRows (tableColumns table))
    Db.log (.tableFound table.sql declared.length)
    return schema.adopt declared
  else if !options.createIfNotExists then
    throw (.query s!"table {table.sql} does not exist and create_if_not_exists is false" none)
  else makeTable options table schema

def chunkValues (schema : TableSchema) : List Csv.Record → Except Error (List Row)
  | [] => .ok []
  | record :: records =>
    match schema.values record.fields record.line with
    | .error e => .error e
    | .ok row =>
      match chunkValues schema records with
      | .error e => .error e
      | .ok rows => .ok (row :: rows)

def insertStatement (table : Ident) (columns : List String) (rows : List Row) :
    Except Error Statement :=
  (((Insert.ofTable table.sql).columnList columns).records rows).build

def flush (options : Options) (table : Ident) (columns : List String) (report : Report)
    (rows : List Row) : LoadTask ρ Report := do
  let s ← report.after (insertStatement table columns rows)
  report.after <| Db.log <|
    if options.logInsertQuery then .chunkStatement s.sql rows.length
    else .chunkInserting table.sql rows.length
  let affected ← report.after <| tryCatch (Db.execute s) fun e => do
    Db.log (.chunkFailed table.sql report.rowsInserted e)
    throw e
  return report.add affected

def insertChunk (options : Options) (table : Ident) (schema : TableSchema) (report : Report)
    (chunk : List Csv.Record) : LoadTask ρ Report := do
  let rows ← report.after (chunkValues schema chunk)
  flush options table schema.columnNames report rows

def insertChunks (options : Options) (table : Ident) (schema : TableSchema) :
    Report → List (List Csv.Record) → LoadTask ρ Report
  | report,[] => return report
  | report,chunk :: rest => do
    insertChunks options table schema (← insertChunk options table schema report chunk) rest

def openTable (options : Options) (table : Ident) (schema : TableSchema) :
    LoadTask ρ TableSchema := do
  if options.autoIncrement then
    let _ ← Report.empty.after (schema.identityColumn table)
  Report.empty.after (prepareTable options table schema)

def conclude (table : Ident) (report : Report) (fault : Option CsvFault) :
    LoadTask ρ Report := do
  match fault with
  | some fault => throw (report.stop (.csv fault))
  | none =>
    report.after (Db.log (.loadFinished table.sql report.rowsInserted report.batches))
    return report

def concludeEmpty (table : Ident) : LoadTask ρ Report := do
  Report.empty.after (Db.log (.emptySource table.sql))
  return Report.empty

def insertFeed (options : Options) (table : Ident) (feed : Feed) : LoadTask ρ Report := do
  if feed.sampled = 0 then concludeEmpty table
  else
    let schema ← openTable options table feed.schema
    conclude table (← insertChunks options table schema Report.empty feed.chunks) feed.fault

def load (options : Options) (table : String) (source : Csv.Source) : LoadTask ρ Report := do
  Report.empty.after options.validate
  let table ← Report.empty.after (Ident.parse table)
  let feed ← Report.empty.after (feed options source.document)
  insertFeed options table feed

-- Loads from a path at which no file was put. A directory can be opened but not read; where
-- nothing can be opened, nothing else is looked at.
def loadMissing (options : Options) (table path : String) : LoadTask ρ Report :=
  match placeAt path with
  | .directory => load options table ⟨[],.failed "Is a directory (os error 21)"⟩
  | .emptyFile => load options table ⟨[],.complete⟩
  | .nothing reason => throw (.atStart (.validation (.unopened path reason)))

end DataAccess.Load
