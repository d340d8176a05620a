import DataAccess.Proofs.Cache.Table
import DataAccess.Proofs.Session.Growth
import DataAccess.Record.Samples
import DataAccess.Session.Execution

-- Queries and the cache. A cached query answers from the results that are kept or sends its
-- statement, and what comes of that is kept unless something fails; any other query goes past the
-- cache.
namespace DataAccess
open Cache

-- The records that a statement would get now, or why it would get none.
def Backend.fetch (b : Backend) (type : RecordType σ) (s : Statement) : Except Error (List σ) :=
  (b.perform s .rows).1.bind fun outcome => type.mapRows outcome.toRows

theorem Db.queryAs_run (type : RecordType σ) (s : Statement) (db : Db ρ) : Db.queryAs type s db =
    (db.backend.fetch type s,{ db with backend := (db.backend.perform s .rows).2 }) := by
  have ran : Db.run s .rows db =
      ((db.backend.perform s .rows).1,{ db with backend := (db.backend.perform s .rows).2 }) := rfl
  rw [Db.queryAs,Db.queryRows,bind_run,bind_run,ran,Backend.fetch]
  cases (db.backend.perform s .rows).1 <;> rfl

-- The call that a cached query makes of the store.
def Db.asks (type : RecordType ρ) (s : Statement) (b : Backend) : Op String (List ρ) :=
  .call (Db.request type s) (b.fetch type s)

-- How a cached query runs when so much was done to the store before: what it answers, what it sends
-- and what is in the store then.
structure Cached (ops : List (Op String (List ρ))) (type : RecordType ρ) (s : Statement) (db : Db ρ)
    (ran : Except Error (List ρ) × Db ρ) : Prop where
  stored : ran.2.store = Store.empty.after (ops ++ [Db.asks type s db.backend])
  hit : ∀ v, (Table.empty.after ops).find? (Db.request type s).key = some ⟨type.name,v⟩ →
    ran.1 = .ok v ∧ ran.2.backend.sent = db.backend.sent
  miss : (∀ v, (Table.empty.after ops).find? (Db.request type s).key ≠ some ⟨type.name,v⟩) →
    ran.1 = db.backend.fetch type s ∧ ran.2.backend.sent = db.backend.sent ++
      if db.backend.availability.refusal? = none then [(.rows,s.sql,s.params.toList)] else []
  held : ∀ v, ran.1 = .ok v → ∀ key,
    (Table.empty.after (ops ++ [Db.asks type s db.backend])).find? key =
      if key = (Db.request type s).key then some ⟨type.name,v⟩ else (Table.empty.after ops).find? key
  kept : ∀ e, ran.1 = .error e →
    Table.empty.after (ops ++ [Db.asks type s db.backend]) = Table.empty.after ops

-- A task that neither looks at the cache nor changes it.
def PastCache (task : Task ρ α) : Prop := ∃ run : Backend → Except Error α × Backend,
  ∀ db, task db = ((run db.backend).1,⟨(run db.backend).2,db.store⟩)

section Entering

variable {type : RecordType ρ} {s : Statement} {db : Db ρ} {ops : List (Op String (List ρ))}

theorem Cached.of_hit (stored : db.store = Store.empty.after ops) {entry : Entry String (List ρ)}
    (found : (Table.empty.after ops).find? (Db.request type s).key = some entry)
    (kind : entry.kind = type.name)
    (enters : Enters (Store.empty.after ops) (Db.request type s) (Store.empty.after ops).countHit
      (.done false (.ok entry.value))) : Cached ops type s db (Db.queryCached type s db) := by
  obtain ⟨name,w⟩ := entry
  cases kind
  have ran : Db.queryCached type s db =
      (.ok w,⟨db.backend.log (.cacheHit type.model),(Store.empty.after ops).countHit⟩) := by
    rw [Db.queryCached,stored,enters.enter]
  have same : Table.empty.after (ops ++ [Db.asks type s db.backend]) = Table.empty.after ops := by
    rw [Table.after_push,Db.asks,Table.perform_found found rfl]
  rw [ran]
  constructor
  · rw [Store.after_push,Db.asks,Store.perform,enters.getOrCompute_done]
  · intro v theirs
    cases found.symm.trans theirs
    exact ⟨rfl,Backend.log_sent _ _⟩
  · exact fun none => absurd found (none w)
  · intro v answered key
    cases answered
    rw [same]
    by_cases own : key = (Db.request type s).key
    · rw [if_pos own,own]
      exact found
    · exact (if_neg own).symm
  · exact fun _ _ => same

theorem Cached.of_miss (stored : db.store = Store.empty.after ops)
    (other : ∀ entry, (Table.empty.after ops).find? (Db.request type s).key = some entry →
      entry.kind ≠ type.name)
    (enters : Enters (Store.empty.after ops) (Db.request type s) after (.computing place)) :
    Cached ops type s db (Db.queryCached type s db) := by
  have ran : (Db.queryCached type s db).1 = db.backend.fetch type s ∧
      (Db.queryCached type s db).2.store =
        after.settle (Db.request type s) place (db.backend.fetch type s) ∧
      (Db.queryCached type s db).2.backend.sent = (db.backend.perform s .rows).2.sent := by
    rw [Db.queryCached,stored,enters.enter]
    simp only [Db.queryAs_run]
    split
    · exact ⟨rfl,rfl,Backend.log_sent _ _⟩
    · exact ⟨rfl,rfl,rfl⟩
  obtain ⟨answered,settled,sent⟩ := ran
  have computed : Table.empty.after (ops ++ [Db.asks type s db.backend]) =
      (Table.empty.after ops).compute (Db.request type s) (db.backend.fetch type s) := by
    rw [Table.after_push,Db.asks,Table.perform_computed other]
  constructor
  · rw [settled,Store.after_push,Db.asks,Store.perform,enters.getOrCompute_computing]
  · exact fun v found => absurd rfl (other _ found)
  · exact fun _ => ⟨answered,sent.trans (db.backend.perform_sent s .rows)⟩
  · intro v got key
    rw [computed,answered.symm.trans got]
    exact Table.find?_insert _ _ _ _
  · intro e failed
    rw [computed,answered.symm.trans failed]
    rfl

theorem Db.queryCached_run (stored : db.store = Store.empty.after ops) :
    Cached ops type s db (Db.queryCached type s db) := by
  rcases (Shows.empty.after ops).enters (Db.request type s) with
    ⟨entry,found,kind,enters⟩ | ⟨other,after,place,enters,_⟩
  · exact .of_hit stored found kind enters
  · exact .of_miss stored other enters

end Entering

-- How an invalidation runs when so much was done to the store before.
structure Invalidated (ops : List (Op String (List ρ))) (model : Option String)
    (ran : Except Error Nat × Db ρ) : Prop where
  stored : ran.2.store = Store.empty.after (ops ++ [.invalidate model])
  removed : ran.1 = .ok ((Table.empty.after ops).entries.countP fun place => covers model place.1)
  left : ∀ key, (Table.empty.after (ops ++ [.invalidate model])).find? key =
    if covers model key then none else (Table.empty.after ops).find? key

theorem Db.invalidate_run (model : Option String) {db : Db ρ} (stored : db.store = Store.empty.after ops) :
    Invalidated ops model (Db.invalidate model db) := by
  obtain ⟨_,removed⟩ := (Shows.empty.after ops).invalidate model
  constructor
  · rw [Store.after_push,← stored]
    rfl
  · rw [← stored] at removed
    exact congrArg Except.ok removed
  · intro key
    rw [Table.after_push,Table.perform,Table.find?_keep]
    cases covers model key <;> rfl

theorem PastCache.queryAs (type : RecordType σ) (s : Statement) : PastCache (Db.queryAs (ρ := ρ) type s) :=
  ⟨fun b => (b.fetch type s,(b.perform s .rows).2),Db.queryAs_run type s⟩

-- What is run of a statement if there is one.
theorem PastCache.built {next : Statement → Task ρ α} (past : ∀ s, PastCache (next s))
    (tried : Except Error Statement) : PastCache ((liftM tried : Task ρ Statement) >>= next) := by
  cases tried with
  | error e => exact ⟨fun b => (.error e,b),fun db => rfl⟩
  | ok s => exact past s

namespace Query

-- The tasks that run a statement through the cache.
inductive CachedRun : Task ρ (List ρ) → RecordType ρ → Statement → Prop where
  | fetchCached (q : Select) (type : RecordType ρ) (made : q.build = .ok s) :
      CachedRun (q.fetchCached type) type s
  | get (f : Fetch) (type : RecordType ρ) (cached : f.useCache = true) (made : f.statement = .ok s) :
      CachedRun (f.get type) type s

-- The tasks that would run one if they had one.
inductive UnbuiltRun : Task ρ (List ρ) → Error → Prop where
  | fetchCached (q : Select) (type : RecordType ρ) (failed : q.build = .error e) :
      UnbuiltRun (q.fetchCached type) e
  | get (f : Fetch) (type : RecordType ρ) (failed : f.statement = .error e) : UnbuiltRun (f.get type) e

-- The tasks that get records without the cache.
inductive UncachedRun : {σ : Type} → Task ρ (List σ) → Prop where
  | fetchAll (q : Select) (type : RecordType σ) : UncachedRun (q.fetchAll type)
  | get (f : Fetch) (type : RecordType ρ) (uncached : f.useCache = false) : UncachedRun (f.get type)

theorem CachedRun.task {task : Task ρ (List ρ)} (runs : CachedRun task type s) :
    task = Db.queryCached type s := by
  cases runs with
  | fetchCached q _ made =>
    unfold Select.fetchCached
    rw [made]
    rfl
  | get f _ cached made =>
    unfold Fetch.get
    rw [made,cached]
    rfl

theorem UnbuiltRun.run {task : Task ρ (List ρ)} (runs : UnbuiltRun task e) (db : Db ρ) :
    task db = (.error e,db) := by
  cases runs with
  | fetchCached q type failed =>
    unfold Select.fetchCached
    rw [failed]
    rfl
  | get f type failed =>
    unfold Fetch.get
    rw [failed]
    rfl

theorem UncachedRun.past {task : Task ρ (List σ)} (runs : UncachedRun task) : PastCache task := by
  cases runs with
  | fetchAll q type => exact .built (.queryAs type) q.build
  | get f type uncached =>
    unfold Fetch.get
    rw [uncached]
    exact .built (.queryAs type) f.statement

-- Calls that do not overlap find in the store what a finite map of keys would have in it, and so
-- does a query that goes by the store; it sends its statement when nothing is found, provided that
-- it gets a connection.
theorem cache_as_table [DecidableEq κ] :
    (∀ ops : List (Op κ α), Store.empty.answers ops = Table.empty.answers ops ∧ ∀ r outcome,
      (Machine.ofStore (Store.empty.after ops)).run (Machine.alone r outcome) =
        ⟨((Store.empty.after ops).getOrCompute r outcome).1,
          [⟨r,.done ((Store.empty.after ops).getOrCompute r outcome).2.1
            ((Store.empty.after ops).getOrCompute r outcome).2.2⟩]⟩) ∧
    (∀ ops (db : Db ρ), db.store = Store.empty.after ops →
      (∀ task type s, CachedRun task type s → Cached ops type s db (task db)) ∧
      ∀ model, Invalidated ops model (Db.invalidate model db)) ∧
    (∀ (task : Task ρ (List ρ)) e, UnbuiltRun task e → ∀ db, task db = (.error e,db)) ∧
    ∀ (σ : Type) (task : Task ρ (List σ)), UncachedRun task → PastCache task := by
  refine ⟨fun ops => ⟨Shows.empty.answers ops,(Shows.empty.after ops).alone⟩,?_,?_,?_⟩
  · intro ops db stored
    refine ⟨?_,fun model => Db.invalidate_run model stored⟩
    intro task type s runs
    rw [runs.task]
    exact Db.queryCached_run stored
  · exact fun task e runs db => runs.run db
  · exact fun σ task runs => runs.past

-- A fetch of what is kept already, one of what is not, one that is left out of the cache, and one
-- without a text.
theorem cache_as_table_kept :
    (∀ v : List Row, (Fetch.get ⟨"SELECT 1",[],true⟩ Samples.user ⟨.start .ready [],Store.empty.after
      [.call (Db.request Samples.user (.ofText "SELECT 1")) (.ok v)]⟩).1 = .ok v) ∧
    (Fetch.get ⟨"SELECT 1",[],true⟩ Samples.user (.ofBackend (.start .ready []))).2.backend.sent =
      [(.rows,"SELECT 1",[])] ∧
    PastCache (Fetch.get ⟨"SELECT 1",[],false⟩ Samples.user) ∧
    ∀ db : Db Row, Fetch.get ⟨" ",[],true⟩ Samples.user db = (.error (.validation .emptyQuery),db) := by
  obtain ⟨_,cached,unbuilt,uncached⟩ := cache_as_table (κ := String) (α := List Row) (ρ := Row)
  have runs : CachedRun (Fetch.get ⟨"SELECT 1",[],true⟩ Samples.user) Samples.user
      (.ofText "SELECT 1") := .get _ _ rfl rfl
  refine ⟨fun v => ?_,?_,uncached Row _ (.get _ _ rfl),unbuilt _ _ (.get _ _ rfl)⟩
  · have found : (Table.empty.after
        [.call (Db.request Samples.user (.ofText "SELECT 1")) (.ok v)]).find?
          (Db.request Samples.user (.ofText "SELECT 1")).key = some ⟨Samples.user.name,v⟩ :=
      (Table.find?_insert _ _ _ _).trans (if_pos rfl)
    obtain ⟨fetches,_⟩ := cached _ ⟨.start .ready [],Store.empty.after
      [.call (Db.request Samples.user (.ofText "SELECT 1")) (.ok v)]⟩ rfl
    exact ((fetches _ _ _ runs).hit v found).1
  · obtain ⟨fetches,_⟩ := cached [] (.ofBackend (.start .ready [])) rfl
    exact ((fetches _ _ _ runs).miss nofun).2

-- A miss sends nothing when the pool lends no connection.
theorem not_always_sent : ¬ ∀ ops (db : Db Row), db.store = Store.empty.after ops →
    ∀ task type s, CachedRun task type s →
      (∀ v, (Table.empty.after ops).find? (Db.request type s).key ≠ some ⟨type.name,v⟩) →
        (task db).2.backend.sent = db.backend.sent ++ [(.rows,s.sql,s.params.toList)] := by
  intro sends
  have runs : CachedRun (Fetch.get ⟨"SELECT id, name, age, joined FROM users",[],true⟩ Samples.user)
      Samples.user (.ofText "SELECT id, name, age, joined FROM users") := .get _ _ rfl rfl
  have claimed := sends [] (.ofBackend (.start .exhausted [])) rfl _ _ _ runs nofun
  have stored : (Db.ofBackend (.start .exhausted []) : Db Row).store = Store.empty.after [] := rfl
  rw [runs.task,((Db.queryCached_run stored).miss nofun).2] at claimed
  cases claimed

end Query

end DataAccess
