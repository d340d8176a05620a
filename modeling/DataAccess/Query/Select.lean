import DataAccess.Query.Condition
import DataAccess.Record.Field

-- SELECT statements over a record type. A builder reads the type's own table and columns unless it
-- is told otherwise.
namespace DataAccess.Query

inductive Order where
  | ascending
  | descending
  deriving DecidableEq, Repr

def Order.sql : Order → String
  | ascending => "ASC"
  | descending => "DESC"

structure Select where
  shape : Shape
  table : Option Ident
  columns : Option (List Ident)
  conditions : List Clause
  order : Option (Ident × Order)
  limit : Option UInt64
  offset : Option UInt64
  rejected : Rejection

namespace Select

def all (shape : Shape) : Select := ⟨shape,none,none,[],none,none,none,none⟩

def reject (q : Select) (e : Error) : Select := { q with rejected := q.rejected.add e }

def fromTable (q : Select) (table : String) : Select :=
  match Ident.parse table with
  | .ok table => { q with table := some table }
  | .error e => q.reject e

def columnList (q : Select) (columns : List String) : Select :=
  match Ident.parseAll columns with
  | .error e => q.reject e
  | .ok [] => q.reject (.validation .emptyProjection)
  | .ok columns => { q with columns := some columns }

def filter (q : Select) (condition : Condition) : Select :=
  match condition.clause with
  | .ok clause => { q with conditions := q.conditions ++ [clause] }
  | .error e => q.reject e

def orderBy (q : Select) (column : String) (order : Order) : Select :=
  match Ident.parse column with
  | .ok column => { q with order := some (column,order) }
  | .error e => q.reject e

def withLimit (q : Select) (n : UInt64) : Select := { q with limit := some n }

def withOffset (q : Select) (n : UInt64) : Select := { q with offset := some n }

inductive Call where
  | fromTable (table : String)
  | columnList (columns : List String)
  | filter (condition : Condition)
  | orderBy (column : String) (order : Order)
  | limit (n : UInt64)
  | offset (n : UInt64)

def call (q : Select) : Call → Select
  | .fromTable table => q.fromTable table
  | .columnList columns => q.columnList columns
  | .filter condition => q.filter condition
  | .orderBy column order => q.orderBy column order
  | .limit n => q.withLimit n
  | .offset n => q.withOffset n

def ofCalls (shape : Shape) (calls : List Call) : Select := calls.foldl call (all shape)

def source (q : Select) : Except Error Ident :=
  match q.table with
  | some table => .ok table
  | none => Ident.parse q.shape.table

def projection (q : Select) : Except Error (List Ident) :=
  match q.columns with
  | some columns => .ok columns
  | none => Ident.parseAll q.shape.columns

def pushOrder (s : Statement) : Option (Ident × Order) → Statement
  | none => s
  | some (column,order) => (((s.push " ORDER BY ").pushIdent column).push " ").push order.sql

def pushCount (s : Statement) (keyword : String) : Option UInt64 → Statement
  | none => s
  | some n => (s.push keyword).push (toString n.toNat)

def build (q : Select) : Except Error Statement := do
  q.rejected.check
  let columns ← q.projection
  let table ← q.source
  let s := (Statement.ofText "SELECT ").pushIdents columns
  let s := ((s.push " FROM ").pushIdent table).pushWhere q.conditions
  .ok (pushCount (pushCount (pushOrder s q.order) " LIMIT " q.limit) " OFFSET " q.offset)

def buildCount (q : Select) : Except Error Statement := do
  q.rejected.check
  let table ← q.source
  .ok (((Statement.ofText "SELECT COUNT(*) FROM ").pushIdent table).pushWhere q.conditions)

end Select

end DataAccess.Query
