import DataAccess.Session.Db

-- Two handles on one database. They share its connections, and either share a cache or have one
-- each.
namespace DataAccess

inductive Handle where
  | first
  | second
  deriving DecidableEq, Repr

-- The second handle has no store of its own when it shares that of the first.
structure Session (ρ : Type) where
  backend : Backend
  store : Cache.Store String (List ρ)
  ownStore : Option (Cache.Store String (List ρ))

namespace Session

def start (backend : Backend) (shared : Bool) : Session ρ :=
  ⟨backend,Cache.Store.empty,if shared then none else some Cache.Store.empty⟩

def storeOf (s : Session ρ) : Handle → Cache.Store String (List ρ)
  | .first => s.store
  | .second => s.ownStore.getD s.store

def db (s : Session ρ) (handle : Handle) : Db ρ := ⟨s.backend,s.storeOf handle⟩

def after (s : Session ρ) (handle : Handle) (db : Db ρ) : Session ρ :=
  match handle,s.ownStore with
  | .second,some _ => { s with backend := db.backend,ownStore := some db.store }
  | _,_ => { s with backend := db.backend,store := db.store }

def on (s : Session ρ) (handle : Handle) (task : StateM (Db ρ) α) : α × Session ρ :=
  let (a,db) := task (s.db handle)
  (a,s.after handle db)

end Session

end DataAccess
