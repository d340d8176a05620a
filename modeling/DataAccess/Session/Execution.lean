import DataAccess.Query.Delete
import DataAccess.Query.Insert
import DataAccess.Query.Select
import DataAccess.Query.Update
import DataAccess.Session.Together
import DataAccess.Text.Quoted

-- Running what the builders make. A builder that does not build fails before a connection is
-- borrowed or the cache is looked at.
namespace DataAccess.Query

namespace Select

def fetchAll (q : Select) (type : RecordType σ) : Task ρ (List σ) := do
  Db.queryAs type (← q.build)

def fetchCached (q : Select) (type : RecordType ρ) : Task ρ (List ρ) := do
  Db.queryCached type (← q.build)

def fetchTogether (q : Select) (type : RecordType ρ) (n : Nat) :
    StateM (Db ρ) (List (Except Error (List ρ))) :=
  match q.build with
  | .ok s => Db.queryTogether type s n
  | .error e => return List.replicate n (.error e)

def first (q : Select) (type : RecordType σ) : Task ρ (Option σ) :=
  return (← (q.withLimit 1).fetchAll type).head?

def fetchRows (q : Select) : Task ρ (List Row) := do
  Db.queryRows (← q.build)

def countOf (rows : List Row) : Except Error Int64 :=
  match rows.head?.bind List.head? with
  | none => .error (.dataMapping "count" .countWithoutRow)
  | some v => v.toInt64.mapError (.dataMapping "count")

def count (q : Select) : Task ρ Int64 := do
  countOf (← Db.queryRows (← q.buildCount))

end Select

def tableText (table : Except Error Ident) : String := (table.toOption.map Ident.sql).getD ""

def Update.execute (q : Update) : Task ρ UInt64 := do
  let s ← q.build
  if !q.hasWhere then Db.log (.unguardedUpdate (tableText q.table))
  Db.execute s

def Delete.execute (q : Delete) (confirmed : Bool) : Task ρ UInt64 := do
  let s ← q.build confirmed
  if !q.hasWhere then Db.log (.unguardedDelete (tableText q.table) q.limit)
  Db.execute s

def Insert.execute (q : Insert) : Task ρ UInt64 := do
  Db.execute (← q.build)

structure Fetch where
  sql : String
  params : List Value
  useCache : Bool
  deriving DecidableEq

namespace Fetch

def statement (q : Fetch) : Except Error Statement :=
  if Text.isAllBlank q.sql then .error (.validation .emptyQuery)
  else .ok ((Statement.ofText q.sql).withParams q.params.toArray)

def get (q : Fetch) (type : RecordType ρ) : Task ρ (List ρ) := do
  let s ← q.statement
  if q.useCache then Db.queryCached type s else Db.queryAs type s

def describe (q : Fetch) : String :=
  "Fetch \x7b sql: " ++ Text.quoted q.sql ++ ", param_count: " ++ toString q.params.length
    ++ ", use_cache: " ++ (if q.useCache then "true" else "false") ++ " \x7d"

end Fetch

end DataAccess.Query
