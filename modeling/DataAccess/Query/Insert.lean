import DataAccess.Query.Condition
import DataAccess.Record.Field

-- INSERT statements of one or more rows. A row is counted against the columns when it is added, and
-- the values of all rows against the limit on parameters when the statement is made.
namespace DataAccess.Query

-- The table is what was asked for first, so when it is none, nothing was rejected before.
structure Insert where
  table : Except Error Ident
  columns : List Ident
  rows : Array Row
  rejected : Rejection

namespace Insert

def ofTable (table : String) : Insert := ⟨Ident.parse table,[],#[],none⟩

def reject (q : Insert) (e : Error) : Insert := { q with rejected := q.rejected.add e }

def columnList (q : Insert) (columns : List String) : Insert :=
  match Ident.parseAll columns with
  | .ok columns => { q with columns }
  | .error e => q.reject e

def values (q : Insert) (row : Row) : Insert :=
  if row.length ≠ q.columns.length then
    q.reject (.validation (.rowLength (q.rows.size + 1) row.length q.columns.length))
  else { q with rows := q.rows.push row }

def records (q : Insert) (rows : List Row) : Insert := rows.foldl values q

def forRecord (shape : Shape) (table : String) : Insert :=
  (ofTable table).columnList shape.columns

inductive Call where
  | columnList (columns : List String)
  | values (row : Row)
  | records (rows : List Row)

def call (q : Insert) : Call → Insert
  | .columnList columns => q.columnList columns
  | .values row => q.values row
  | .records rows => q.records rows

def ofCalls (table : String) (calls : List Call) : Insert := calls.foldl call (ofTable table)

def pushRow (s : Statement) (row : Row) : Statement := ((s.push "(").bindList row).push ")"

def pushRows (s : Statement) : List Row → Statement
  | [] => s
  | row :: rows => rows.foldl (fun s row => pushRow (s.push ", ") row) (pushRow s row)

def build (q : Insert) : Except Error Statement := do
  let table ← q.table
  q.rejected.check
  let total := q.rows.size * q.columns.length
  if q.columns.isEmpty then .error (.validation (.noColumns table.sql))
  else if q.rows.isEmpty then .error (.validation (.noRows table.sql))
  else if maxParameters < total then
    .error (.validation (.tooManyParameters table.sql total))
  else
    let s := ((Statement.ofText "INSERT INTO ").pushIdent table).push " ("
    .ok (pushRows ((s.pushIdents q.columns).push ") VALUES ") q.rows.toList)

end Insert

end DataAccess.Query
