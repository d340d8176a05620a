import DataAccess.Assignments
import DataAccess.Query.Condition

-- UPDATE statements. Something has to be set; without a condition every row is changed.
namespace DataAccess.Query

-- The table is what was asked for first, so when it is none, nothing was rejected before.
structure Update where
  table : Except Error Ident
  assignments : Assignments
  conditions : List Clause
  rejected : Rejection

namespace Update

def ofTable (table : String) : Update := ⟨Ident.parse table,[],[],none⟩

def reject (q : Update) (e : Error) : Update := { q with rejected := q.rejected.add e }

def set (q : Update) (column : String) (v : Value) : Update :=
  match Ident.parse column with
  | .ok column => { q with assignments := q.assignments.set column v }
  | .error e => q.reject e

def setMany (q : Update) (entries : List (String × Value)) : Update :=
  entries.foldl (fun q (column,v) => q.set column v) q

def filter (q : Update) (condition : Condition) : Update :=
  match condition.clause with
  | .ok clause => { q with conditions := q.conditions ++ [clause] }
  | .error e => q.reject e

inductive Call where
  | set (column : String) (v : Value)
  | setMany (entries : List (String × Value))
  | filter (condition : Condition)

def call (q : Update) : Call → Update
  | .set column v => q.set column v
  | .setMany entries => q.setMany entries
  | .filter condition => q.filter condition

def ofCalls (table : String) (calls : List Call) : Update := calls.foldl call (ofTable table)

def hasWhere (q : Update) : Bool := !q.conditions.isEmpty

def build (q : Update) : Except Error Statement := do
  let table ← q.table
  q.rejected.check
  if q.assignments.isEmpty then .error (.validation (.nothingSet table.sql))
  else
    .ok <| (Assignments.appendTo ((Statement.ofText "UPDATE ").pushIdent table)
      q.assignments).pushWhere q.conditions

end Update

end DataAccess.Query
