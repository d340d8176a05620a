import DataAccess.Session.Event
import DataAccess.Statement

-- The database as statements meet it: a pool that lends connections or refuses to, and the replies
-- that the connections will give. What happens is written into a journal, and what is known of
-- connections and statements is read off it.
namespace DataAccess

inductive Reply where
  | rows (rows : List Row)
  | affected (n : UInt64)
  | failure (e : Error)
  deriving DecidableEq

inductive Availability where
  | ready
  | exhausted
  | unavailable
  deriving DecidableEq, Repr

def Availability.refusal? : Availability → Option Error
  | ready => none
  | exhausted => some (.poolExhausted ⟨10_000_000⟩)
  | unavailable => some (.connection "connection refused")

inductive Wanted where
  | rows
  | count
  deriving DecidableEq, Repr

inductive Act where
  | acquire
  | send (wanted : Wanted) (sql : String) (params : List Value)
  | release
  | log (event : Event)
  deriving DecidableEq

-- The connections that are out where a journal ends.
def Act.outstanding (journal : List Act) : Nat := journal.count .acquire - journal.count .release

inductive Outcome where
  | rows (rows : List Row)
  | affected (n : UInt64)
  deriving DecidableEq

namespace Outcome

def toRows : Outcome → List Row
  | rows found => found
  | affected _ => []

def count : Outcome → UInt64
  | rows found => UInt64.ofNat found.length
  | affected n => n

end Outcome

structure Backend where
  availability : Availability
  replies : List Reply
  journal : Array Act
  deriving DecidableEq

namespace Backend

def start (availability : Availability) (replies : List Reply) : Backend := ⟨availability,replies,#[]⟩

def record (b : Backend) (act : Act) : Backend := { b with journal := b.journal.push act }

def log (b : Backend) (event : Event) : Backend := b.record (.log event)

def note (b : Backend) (event? : Option Event) : Backend := event?.elim b b.log

def acquired (b : Backend) : Nat := b.journal.toList.count .acquire

def outstanding (b : Backend) : Nat := Act.outstanding b.journal.toList

-- The outcome of a statement that gets a reply. A reply of the other sort stands for no rows
-- and no changes, and so does none.
def outcomeOf (wanted : Wanted) : Option Reply → Except Error Outcome
  | some (.failure e) => .error e
  | some (.rows rows) => .ok (match wanted with | .rows => .rows rows | .count => .affected 0)
  | some (.affected n) => .ok (match wanted with | .rows => .rows [] | .count => .affected n)
  | none => .ok (match wanted with | .rows => .rows [] | .count => .affected 0)

def send (b : Backend) (wanted : Wanted) (sql : String) (params : List Value) :
    Except Error Outcome × Backend :=
  let b := b.record (.send wanted sql params)
  (outcomeOf wanted b.replies.head?,{ b with replies := b.replies.tail })

-- Runs one statement: borrows a connection, sends the statement once and gives the connection
-- back, whatever came of it.
def perform (b : Backend) (s : Statement) (wanted : Wanted) : Except Error Outcome × Backend :=
  let type := QueryType.ofSql s.sql
  match b.availability.refusal? with
  | some e => (.error e,b.log (.connectionDenied type e))
  | none =>
    let (result,b) := (b.record .acquire).send wanted s.sql s.params.toList
    let b := b.record .release
    match result with
    | .ok outcome =>
      (result,b.log (.statementExecuted type s.sql s.params.size outcome.count.toNat))
    | .error e => (result,b.log (.statementFailed type s.sql s.params.size e))

def ping (b : Backend) : Bool × Backend :=
  match b.availability.refusal? with
  | some _ => (false,b)
  | none =>
    let (result,b) := (b.record .acquire).send .rows "SELECT 1" []
    (result.isOk,b.record .release)

end Backend

end DataAccess
