import DataAccess.Load.Records
import DataAccess.Proofs.Session.Programs

-- The operations that a caller may ask for, each with its program: those of a database, of the
-- builders and of fetches, and those that load records.
namespace DataAccess
open Query Load

-- What fails with an error as it is.
inductive Inquiry (ρ : Type) : Type → Type 1 where
  | run (s : Statement) (wanted : Wanted) : Inquiry ρ Outcome
  | execute (s : Statement) : Inquiry ρ UInt64
  | queryRows (s : Statement) : Inquiry ρ (List Row)
  | queryAs (type : RecordType σ) (s : Statement) : Inquiry ρ (List σ)
  | queryCached (type : RecordType ρ) (s : Statement) : Inquiry ρ (List ρ)
  | invalidate (model : Option String) : Inquiry ρ Nat
  | fetchAll (q : Select) (type : RecordType σ) : Inquiry ρ (List σ)
  | fetchCached (q : Select) (type : RecordType ρ) : Inquiry ρ (List ρ)
  | fetchRows (q : Select) : Inquiry ρ (List Row)
  | first (q : Select) (type : RecordType σ) : Inquiry ρ (Option σ)
  | count (q : Select) : Inquiry ρ Int64
  | update (q : Update) : Inquiry ρ UInt64
  | delete (q : Delete) (confirmed : Bool) : Inquiry ρ UInt64
  | insert (q : Insert) : Inquiry ρ UInt64
  | get (q : Fetch) (type : RecordType ρ) : Inquiry ρ (List ρ)

-- What stops with an error and the number of rows that it had committed.
inductive Loading : Type 1 where
  | records (type : RecordType σ) (table : String) (records : List σ) (chunkSize : Nat)
  | source (options : Options) (table : String) (source : Csv.Source)
  | path (options : Options) (table path : String)

namespace Inquiry

def task : Inquiry ρ α → Task ρ α
  | run s wanted => Db.run s wanted
  | execute s => Db.execute s
  | queryRows s => Db.queryRows s
  | queryAs type s => Db.queryAs type s
  | queryCached type s => Db.queryCached type s
  | invalidate model => Db.invalidate model
  | fetchAll q type => q.fetchAll type
  | fetchCached q type => q.fetchCached type
  | fetchRows q => q.fetchRows
  | first q type => q.first type
  | count q => q.count
  | update q => q.execute
  | delete q confirmed => q.execute confirmed
  | insert q => q.execute
  | get q type => q.get type

end Inquiry

def Loading.task : Loading → LoadTask ρ Report
  | .records type table given chunkSize => insertRecords type table given chunkSize
  | .source options table given => load options table given
  | .path options table place => loadMissing options table place

namespace Programmed

def execute (s : Statement) : Programmed (ρ := ρ) (Fails id) (Db.execute s) :=
  (run s .count).bind fun outcome => still (.ok outcome.count)

def queryRows (s : Statement) : Programmed (ρ := ρ) (Fails id) (Db.queryRows s) :=
  (run s .rows).bind fun outcome => still (.ok outcome.toRows)

def queryAs (type : RecordType σ) (s : Statement) :
    Programmed (ρ := ρ) (Fails id) (Db.queryAs type s) :=
  (queryRows s).bind fun rows => still (type.mapRows rows)

def fetchAll (q : Select) (type : RecordType σ) :
    Programmed (ρ := ρ) (Fails id) (q.fetchAll type) :=
  (still q.build).bind fun s => queryAs type s

def first (q : Select) (type : RecordType σ) : Programmed (ρ := ρ) (Fails id) (q.first type) :=
  (fetchAll (q.withLimit 1) type).bind fun found => still (.ok found.head?)

def fetchRows (q : Select) : Programmed (ρ := ρ) (Fails id) q.fetchRows :=
  (still q.build).bind queryRows

def count (q : Select) : Programmed (ρ := ρ) (Fails id) q.count :=
  (still q.buildCount).bind fun s => (queryRows s).bind fun rows => still (Select.countOf rows)

def update (q : Update) : Programmed (ρ := ρ) (Fails id) q.execute :=
  (still q.build).bind fun s =>
    ite ((log _).bind fun _ => execute s) (execute s)

def delete (q : Delete) (confirmed : Bool) : Programmed (ρ := ρ) (Fails id) (q.execute confirmed) :=
  (still (q.build confirmed)).bind fun s =>
    ite ((log _).bind fun _ => execute s) (execute s)

def insert (q : Insert) : Programmed (ρ := ρ) (Fails id) q.execute :=
  (still q.build).bind execute

-- What a call goes on to from where it has come to in the cache.
def answering (type : RecordType ρ) (s : Statement) : Cache.Phase (List ρ) → Program ρ (Except Error (List ρ))
  | .done _ result => .log (.cacheHit type.model) (.done result)
  | .computing slot => (queryAs type s).program.bind fun result =>
    .store (fun store => store.settle (Db.request type s) slot result) fun _ =>
      if slot.isSome && result.isOk then .log (.cacheMiss type.model) (.done result) else .done result
  | _ => (queryAs type s).program

theorem answering_passes (type : RecordType ρ) (s : Statement) (phase : Cache.Phase (List ρ)) :
    (answering type s phase).Passes (Fails id) := by
  cases phase with
  | computing slot =>
    refine (queryAs type s).passes.bind ?_ ?_
    · intro result found
      cases slot.isSome && result.isOk <;> trivial
    · intro e result failed found
      change (if slot.isSome && result.isOk then
        .log (.cacheMiss type.model) (.done result) else .done result : Program ρ _).Ends _
      cases slot.isSome && result.isOk <;> exact failed
  | done computed result => trivial
  | _ => exact (queryAs type s).passes

def queryCached (type : RecordType ρ) (s : Statement) :
    Programmed (Fails id) (Db.queryCached type s) where
  program := .store (fun store => (store.enter (Db.request type s)).1) fun found =>
    answering type s (found.enter (Db.request type s)).2
  runs db := by
    unfold Db.queryCached Program.run
    dsimp only
    rcases db.store.enter (Db.request type s) with ⟨store,phase⟩
    cases phase with
    | computing slot =>
      dsimp only
      rw [answering,Program.run_bind,(queryAs type s).runs]
      rcases (queryAs type s).program.run { db with store } with ⟨result,after⟩
      dsimp only [Program.run]
      cases slot.isSome && result.isOk <;> rfl
    | done computed result => rfl
    | _ => exact (queryAs type s).runs _
  passes found := answering_passes type s _

def fetchCached (q : Select) (type : RecordType ρ) : Programmed (Fails id) (q.fetchCached type) :=
  (still q.build).bind fun s => queryCached type s

def get (q : Fetch) (type : RecordType ρ) : Programmed (Fails id) (q.get type) :=
  (still q.statement).bind fun s => ite (queryCached type s) (queryAs type s)

def invalidate (model : Option String) : Programmed (ρ := ρ) (Fails id) (Db.invalidate model) where
  program := .store (fun store => (store.invalidate model).1) fun found =>
    .log (.cacheInvalidated model (found.invalidate model).2) (.done (.ok (found.invalidate model).2))
  runs _ := rfl
  passes _ := trivial

-- A connection that cannot be had or does not answer is no error of a ping.
def ping : Programmed (ρ := ρ) (fun _ answer => answer = .ok false) Db.ping where
  program := .borrow .ping fun result => .done (.ok result.isOk)
  runs db := by
    change (Except.ok db.backend.ping.1,{ db with backend := db.backend.ping.2 }) = _
    rw [Errand.perform_ping]
    rfl
  passes := ⟨fun _ => trivial,fun _ => rfl⟩

def makeTable (options : Options) (table : Ident) (schema : TableSchema) :
    Programmed (ρ := ρ) (Fails id) (makeTable options table schema) :=
  (log _).bind fun _ => (execute _).bind fun _ => (log _).bind fun _ => still (.ok schema)

def askExists (table : Ident) : Programmed (ρ := ρ) (Fails id) (askExists table) :=
  (queryRows _).bind fun rows => still (existence rows)

def prepareTable (options : Options) (table : Ident) (schema : TableSchema) :
    Programmed (ρ := ρ) (Fails id) (prepareTable options table schema) :=
  ite ((execute _).bind fun _ => (log _).bind fun _ => makeTable options table schema)
    ((askExists table).bind fun _ => ite
      ((queryRows _).bind fun rows => (still (declaredColumns rows)).bind fun declared =>
        (log _).bind fun _ => still (.ok (schema.adopt declared)))
      (ite (still (.error _)) (makeTable options table schema)))

def openTable (options : Options) (table : Ident) (schema : TableSchema) :
    Programmed (ρ := ρ) (Fails Stopped.cause) (openTable options table schema) :=
  ite ((after .empty (still (schema.identityColumn table))).bind fun _ =>
      after .empty (prepareTable options table schema))
    (after .empty (prepareTable options table schema))

def flush (options : Options) (table : Ident) (columns : List String) (report : Report)
    (rows : List Row) : Programmed (ρ := ρ) (Fails Stopped.cause) (flush options table columns report rows) :=
  (after report (still (insertStatement table columns rows))).bind fun s =>
    (after report (log _)).bind fun _ =>
      (after report (reporting (execute s) fun e => .chunkFailed table.sql report.rowsInserted e)).bind
        fun affected => still (.ok (report.add affected))

def insertChunks (options : Options) (table : Ident) (schema : TableSchema) :
    (report : Report) → (chunks : List (List Csv.Record)) →
      Programmed (ρ := ρ) (Fails Stopped.cause) (insertChunks options table schema report chunks)
  | report,[] => still (.ok report)
  | report,chunk :: rest =>
    ((after report (still (chunkValues schema chunk))).bind fun rows =>
      flush options table schema.columnNames report rows).bind fun report =>
        insertChunks options table schema report rest

def conclude (table : Ident) (report : Report) : (fault : Option CsvFault) →
    Programmed (ρ := ρ) (Fails Stopped.cause) (conclude table report fault)
  | some fault => still (.error (report.stop (.csv fault)))
  | none => (after report (log _)).bind fun _ => still (.ok report)

def insertFeed (options : Options) (table : Ident) (feed : Feed) :
    Programmed (ρ := ρ) (Fails Stopped.cause) (insertFeed options table feed) :=
  ite ((after .empty (log _)).bind fun _ => still (.ok Report.empty))
    ((openTable options table feed.schema).bind fun schema =>
      (insertChunks options table schema .empty feed.chunks).bind fun report =>
        conclude table report feed.fault)

def load (options : Options) (table : String) (source : Csv.Source) :
    Programmed (ρ := ρ) (Fails Stopped.cause) (load options table source) :=
  (after .empty (still options.validate)).bind fun _ =>
    (after .empty (still (Ident.parse table))).bind fun table =>
      (after .empty (still (feed options source.document))).bind fun feed =>
        insertFeed options table feed

def insertRowChunks (shape : Shape) (table : String) : (report : Report) → (chunks : List (List Row)) →
    Programmed (ρ := ρ) (Fails Stopped.cause) (insertRowChunks shape table report chunks)
  | report,[] => still (.ok report)
  | report,rows :: rest =>
    (after report (insert (recordsInsert shape table rows))).bind fun affected =>
      (after report (log _)).bind fun _ => insertRowChunks shape table (report.add affected) rest

def insertRecords (type : RecordType σ) (table : String) (records : List σ) (chunkSize : Nat) :
    Programmed (ρ := ρ) (Fails Stopped.cause) (insertRecords type table records chunkSize) :=
  let inserting := (after .empty (still (checkBindLimit chunkSize type.fields.length))).bind fun _ =>
    (after .empty (still (Ident.parse table))).bind fun _ =>
      (insertRowChunks type.toShape table .empty (chunks chunkSize (records.map type.toValues))).bind
        fun report => (after report (log _)).bind fun _ => still (.ok report)
  let some := ite ((still (.error _)).bind fun _ => inserting) inserting
  ite ((still (.error _)).bind fun _ => some) some

def loadMissing (options : Options) (table path : String) :
    Programmed (ρ := ρ) (Fails Stopped.cause) (loadMissing options table path) where
  program := match placeAt path with
    | .directory => (load options table ⟨[],.failed "Is a directory (os error 21)"⟩).program
    | .emptyFile => (load options table ⟨[],.complete⟩).program
    | .nothing reason => .done (.error (.atStart (.validation (.unopened path reason))))
  runs db := by
    unfold Load.loadMissing
    cases placeAt path with
    | directory | emptyFile => exact (load options table _).runs db
    | nothing reason => rfl
  passes := by
    cases placeAt path with
    | directory | emptyFile => exact (load options table _).passes
    | nothing reason => trivial

end Programmed

-- Whatever a caller may ask for.
inductive Operation (ρ : Type) : Type → Type → Type 1 where
  | inquiry (asked : Inquiry ρ α) : Operation ρ Error α
  | loading (asked : Loading) : Operation ρ Stopped Report
  | ping : Operation ρ Error Bool

namespace Operation

def task : Operation ρ ε α → ExceptT ε (StateM (Db ρ)) α
  | inquiry asked => asked.task
  | loading asked => asked.task
  | ping => Db.ping

-- How the caller is told the error of a pool or a backend.
def Tells : Operation ρ ε α → Error → Except ε α → Prop
  | inquiry _ => Fails id
  | loading _ => Fails Stopped.cause
  | ping => fun _ answer => answer = .ok false

end Operation

namespace Programmed

def inquiry : (asked : Inquiry ρ α) → Programmed (Fails id) asked.task
  | .run s wanted => run s wanted
  | .execute s => execute s
  | .queryRows s => queryRows s
  | .queryAs type s => queryAs type s
  | .queryCached type s => queryCached type s
  | .invalidate model => invalidate model
  | .fetchAll q type => fetchAll q type
  | .fetchCached q type => fetchCached q type
  | .fetchRows q => fetchRows q
  | .first q type => first q type
  | .count q => count q
  | .update q => update q
  | .delete q confirmed => delete q confirmed
  | .insert q => insert q
  | .get q type => get q type

def loading : (asked : Loading) → Programmed (ρ := ρ) (Fails Stopped.cause) asked.task
  | .records type table given chunkSize => insertRecords type table given chunkSize
  | .source options table given => load options table given
  | .path options table path => loadMissing options table path

end Programmed

def Operation.programmed : (operation : Operation ρ ε α) → Programmed operation.Tells operation.task
  | .inquiry asked => Programmed.inquiry asked
  | .loading asked => Programmed.loading asked
  | .ping => Programmed.ping

end DataAccess
