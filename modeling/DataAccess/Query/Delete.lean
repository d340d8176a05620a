import DataAccess.Query.Condition

-- DELETE statements. To delete every row of a table has to be confirmed. The server knows no limit
-- for a DELETE, so a limited one picks its rows by their place (`ctid`) in a subquery.
namespace DataAccess.Query

-- The table is what was asked for first, so when it is none, nothing was rejected before.
structure Delete where
  table : Except Error Ident
  conditions : List Clause
  limit : Option UInt64
  rejected : Rejection

namespace Delete

def ofTable (table : String) : Delete := ⟨Ident.parse table,[],none,none⟩

def reject (q : Delete) (e : Error) : Delete := { q with rejected := q.rejected.add e }

def filter (q : Delete) (condition : Condition) : Delete :=
  match condition.clause with
  | .ok clause => { q with conditions := q.conditions ++ [clause] }
  | .error e => q.reject e

def withLimit (q : Delete) (n : UInt64) : Delete := { q with limit := some n }

inductive Call where
  | filter (condition : Condition)
  | limit (n : UInt64)

def call (q : Delete) : Call → Delete
  | .filter condition => q.filter condition
  | .limit n => q.withLimit n

def ofCalls (table : String) (calls : List Call) : Delete := calls.foldl call (ofTable table)

def hasWhere (q : Delete) : Bool := !q.conditions.isEmpty

def build (q : Delete) (confirmed : Bool) : Except Error Statement := do
  let table ← q.table
  q.rejected.check
  if !q.hasWhere && !confirmed then .error (.validation (.unconfirmedDelete table.sql))
  else
    let s := (Statement.ofText "DELETE FROM ").pushIdent table
    match q.limit with
    | none => .ok (s.pushWhere q.conditions)
    | some n =>
      let s := ((s.push " WHERE ctid IN (SELECT ctid FROM ").pushIdent table).pushWhere q.conditions
      .ok (((s.push " LIMIT ").push (toString n.toNat)).push ")")

end Delete

end DataAccess.Query
