import DataAccess.Cache.Call
import DataAccess.Record.Mapping
import DataAccess.Session.Backend

-- A database with its result cache. Results are kept by the name of their record type, and the
-- computation that a cache miss needs is the query itself.
namespace DataAccess

structure Db (ρ : Type) where
  backend : Backend
  store : Cache.Store String (List ρ)

abbrev Task (ρ α : Type) := ExceptT Error (StateM (Db ρ)) α

namespace Db

def ofBackend (backend : Backend) : Db ρ := ⟨backend,Cache.Store.empty⟩

def log (event : Event) : Task ρ Unit :=
  modify fun db => { db with backend := db.backend.log event }

def run (s : Statement) (wanted : Wanted) : Task ρ Outcome :=
  fun db =>
    let (result,backend) := db.backend.perform s wanted
    (result,{ db with backend })

def execute (s : Statement) : Task ρ UInt64 := return (← run s .count).count

def queryRows (s : Statement) : Task ρ (List Row) := return (← run s .rows).toRows

def queryAs (type : RecordType σ) (s : Statement) : Task ρ (List σ) := do
  type.mapRows (← queryRows s)

-- What a cached query asks of the store.
def request (type : RecordType ρ) (s : Statement) : Cache.Request String :=
  ⟨.of type.model s.sql s.params.toList,type.name⟩

def queryCached (type : RecordType ρ) (s : Statement) : Task ρ (List ρ) :=
  fun db =>
    let request := request type s
    let (store,phase) := db.store.enter request
    let db := { db with store }
    match phase with
    | .done _ result => (result,{ db with backend := db.backend.log (.cacheHit type.model) })
    | .computing slot =>
      let (result,db) := (queryAs type s : Task ρ (List ρ)) db
      let db := { db with store := db.store.settle request slot result }
      if slot.isSome && result.isOk then
        (result,{ db with backend := db.backend.log (.cacheMiss type.model) })
      else (result,db)
    | _ => (queryAs type s : Task ρ (List ρ)) db

def invalidate (model : Option String) : Task ρ Nat :=
  fun db =>
    let (store,removed) := db.store.invalidate model
    (.ok removed,{ store,backend := db.backend.log (.cacheInvalidated model removed) })

def ping : Task ρ Bool :=
  fun db =>
    let (alive,backend) := db.backend.ping
    (.ok alive,{ db with backend })

end Db

end DataAccess
