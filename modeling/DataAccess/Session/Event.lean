import DataAccess.Error
import DataAccess.Session.QueryType

-- What is logged. An event has a level, a target, a message and named fields; a value that a caller
-- bound is in none of them.
namespace DataAccess

inductive Level where
  | error
  | warn
  | info
  | debug
  deriving DecidableEq, Repr

def Level.name : Level → String
  | error => "ERROR"
  | warn => "WARN"
  | info => "INFO"
  | debug => "DEBUG"

inductive FieldValue where
  | count (n : Nat)
  | text (s : String)
  deriving DecidableEq, Repr

inductive Event where
  | connectionDenied (type : QueryType) (cause : Error)
  | statementExecuted (type : QueryType) (sql : String) (params rows : Nat)
  | statementFailed (type : QueryType) (sql : String) (params : Nat) (cause : Error)
  | poolCreated (pool host database : String) (size : Nat)
  | unguardedUpdate (table : String)
  | unguardedDelete (table : String) (limit : Option UInt64)
  | cacheHit (model : String)
  | cacheMiss (model : String)
  | cacheHitAfterWait (model : String)
  | cacheInvalidated (model : Option String) (removed : Nat)
  | emptySource (table : String)
  | tableDropped (table : String)
  | tableFound (table : String) (columns : Nat)
  | tableStatement (sql : String) (visible : Bool)
  | tableCreated (table : String) (columns : Nat)
  | chunkStatement (sql : String) (rows : Nat)
  | chunkInserting (table : String) (rows : Nat)
  | chunkFailed (table : String) (committed : UInt64) (cause : Error)
  | loadFinished (table : String) (rows : UInt64) (batches : Nat)
  | recordsChunk (table : String) (rows : Nat)
  | recordsInserted (table : String) (rows : UInt64) (batches : Nat)
  deriving DecidableEq, Repr

namespace Event

def level : Event → Level
  | statementFailed .. | chunkFailed .. => .error
  | connectionDenied .. | unguardedUpdate .. | unguardedDelete .. | emptySource .. => .warn
  | statementExecuted .. | cacheHit .. | cacheMiss .. | cacheHitAfterWait ..
  | chunkInserting .. | recordsChunk .. => .debug
  | tableStatement _ visible => if visible then .info else .debug
  | _ => .info

def target : Event → String
  | connectionDenied .. | statementExecuted .. | statementFailed .. | poolCreated .. =>
    "lazyorm.sql"
  | unguardedUpdate .. | unguardedDelete .. => "lazyorm.builder"
  | cacheHit .. | cacheMiss .. | cacheHitAfterWait .. | cacheInvalidated .. => "lazyorm.cache"
  | _ => "lazyorm.bulk"

def message : Event → String
  | connectionDenied .. => "could not acquire a connection"
  | statementExecuted .. => "statement executed"
  | statementFailed .. => "statement failed"
  | poolCreated .. => "connection pool created"
  | unguardedUpdate .. => "UPDATE without WHERE clause affects every row"
  | unguardedDelete .. => "confirmed DELETE without WHERE clause"
  | cacheHit .. => "cache hit"
  | cacheMiss .. => "cache miss"
  | cacheHitAfterWait .. => "cache hit after wait"
  | cacheInvalidated .. => "cache invalidated"
  | emptySource .. => "CSV source has no data rows; nothing to insert"
  | tableDropped .. => "table dropped"
  | tableFound .. => "appending to existing table"
  | tableStatement .. => "creating table"
  | tableCreated .. => "table created"
  | chunkStatement .. | chunkInserting .. => "inserting chunk"
  | chunkFailed .. => "chunk insert failed"
  | loadFinished .. => "bulk load finished"
  | recordsChunk .. | recordsInserted .. => "records inserted"

def limitText : Option UInt64 → String
  | none => "None"
  | some n => s!"Some({n.toNat})"

def fields : Event → List (String × FieldValue)
  | connectionDenied type cause =>
    [("query_type",.text type.name),("error",.text cause.message)]
  | statementExecuted type sql params rows =>
    [("query_type",.text type.name),("sql",.text (excerpt sql)),
      ("param_count",.count params),("rows",.count rows)]
  | statementFailed type sql params cause =>
    [("query_type",.text type.name),("sql",.text (excerpt sql)),
      ("param_count",.count params),("error",.text cause.message)]
  | poolCreated pool host database size =>
    [("pool",.text pool),("host",.text host),("database",.text database),
      ("size",.count size)]
  | unguardedUpdate table | emptySource table | tableDropped table => [("table",.text table)]
  | unguardedDelete table limit =>
    [("table",.text table),("limit",.text (limitText limit))]
  | cacheHit model | cacheMiss model | cacheHitAfterWait model => [("model",.text model)]
  | cacheInvalidated model removed =>
    [("model",.text (model.getD "*")),("removed",.count removed)]
  | tableFound table columns | tableCreated table columns =>
    [("table",.text table),("columns",.count columns)]
  | tableStatement sql _ => [("sql",.text (excerpt sql))]
  | chunkStatement sql rows => [("sql",.text (excerpt sql)),("rows",.count rows)]
  | chunkInserting table rows | recordsChunk table rows =>
    [("table",.text table),("rows",.count rows)]
  | chunkFailed table committed cause =>
    [("table",.text table),("rows_committed",.count committed.toNat),
      ("error",.text cause.message)]
  | loadFinished table rows batches | recordsInserted table rows batches =>
    [("table",.text table),("rows",.count rows.toNat),("batches",.count batches)]

end Event

end DataAccess
