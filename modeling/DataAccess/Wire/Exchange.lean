import DataAccess.Text.Blank
import DataAccess.Wire.Decode

-- One statement sent to a server. The exchange goes through three stages, and the server may refuse
-- or hang up at each: the connection is started, the statement is parsed, and with its parameters
-- bound it is executed. Parameters are sent only when every one of them encodes.
namespace DataAccess.Wire

inductive Stage where
  | startup
  | parse
  | execute
  deriving DecidableEq, Repr

abbrev Notice := List (Char × String)

def severities : List String :=
  ["PANIC","FATAL","ERROR","WARNING","NOTICE","DEBUG","INFO","LOG"]

def Notice.isReadable (notice : Notice) : Bool :=
  (notice.lookup 'V').all (severities.contains ·) && isCount 'L' && isCount 'P' && isCount 'p'
    && ((notice.lookup 'P').isSome || (notice.lookup 'p').isNone || (notice.lookup 'q').isSome)
where
  isCount (letter : Char) : Bool :=
    (notice.lookup letter).all fun s => (Number.readBelow? UInt32.size s.toList).isSome

-- The error that a refusal stands for. Severity, code and message have to be there; the
-- constraint that was violated is named if the server names one.
def Notice.toError (notice : Notice) : Error :=
  match notice.isReadable,notice.lookup 'S',notice.lookup 'C',notice.lookup 'M' with
  | true,some _,some code,some message =>
    match notice.lookup 'n' with
    | some violated => .query s!"{message} ({violated})" (some code)
    | none => .query message (some code)
  | _,_,_,_ => .query "error parsing response from server" none

structure Server where
  parameters : List ServerType
  columns : List Column
  rows : List (List Cell)
  tag : String
  refusal : Option (Stage × Notice)
  hangup : Option Stage
  deriving DecidableEq, Repr

def Server.stop? (server : Server) (stage : Stage) : Option Error :=
  if server.hangup = some stage then some (.connection "connection closed")
  else
    match server.refusal with
    | some (refused,notice) => if refused = stage then some notice.toError else none
    | none => none

def encodeAll (index : Nat) : List ServerType → List Value → Except Error (List Cell)
  | type :: types,v :: vs =>
    match encode type v with
    | .error _ => .error (.query s!"error serializing parameter {index}" none)
    | .ok cell => (encodeAll (index + 1) types vs).map (cell :: ·)
  | _,_ => .ok []

def bindAll (types : List ServerType) (vs : List Value) : Except Error (List Cell) :=
  if types.length ≠ vs.length then
    .error (.query s!"expected {types.length} parameters but got {vs.length}" none)
  else encodeAll 0 types vs

-- The error of a text that cannot be sent. On its way a text ends at the first zero byte, so it
-- can hold none.
def unsendable? (sql : String) : Option Error :=
  if sql.toList.contains (Char.ofNat 0) then
    some (.query "error encoding message to server" none)
  else none

-- A statement's way through the stages: the parameters that the server received, if it came to
-- that, and whether the server let it pass.
def Server.exchange (server : Server) (sql : String) (vs : List Value) :
    Option (List Cell) × Except Error Unit :=
  match (server.stop? .startup).or ((unsendable? sql).or (server.stop? .parse)) with
  | some e => (none,.error e)
  | none =>
    match bindAll server.parameters vs with
    | .error e => (none,.error e)
    | .ok cells =>
      match server.stop? .execute with
      | some e => (some cells,.error e)
      | none => (some cells,.ok ())

def Server.resultRows (server : Server) : Except Error (List Row) :=
  decodeRows server.columns server.rows

def Server.affected (server : Server) : Nat :=
  let word := ((server.tag.toList.splitOn ' ').getLast?).getD []
  (Number.readBelow? UInt64.size word).getD 0

inductive Lending where
  | free
  | held (wait : Duration)
  | closed
  deriving DecidableEq, Repr

namespace Lending

-- The error of a connection that is not lent. The one that somebody else holds has been started
-- before, and is waited for as long as the pool is set to.
def refusal? (server : Server) : Lending → Option Error
  | free => none
  | held wait => (server.stop? .startup).or (some (.poolExhausted wait))
  | closed => some PoolFailure.closed.toError

def send (lending : Lending) (server : Server) (sql : String) (vs : List Value)
    (answer : Except Error α) : Option (List Cell) × Except Error α :=
  match lending.refusal? server with
  | some e => (none,.error e)
  | none =>
    match server.exchange sql vs with
    | (bound,.error e) => (bound,.error e)
    | (bound,.ok ()) => (bound,answer)

def query (lending : Lending) (server : Server) (sql : String) (vs : List Value) :
    Option (List Cell) × Except Error (List Row) :=
  lending.send server sql vs server.resultRows

def execute (lending : Lending) (server : Server) (sql : String) (vs : List Value) :
    Option (List Cell) × Except Error Nat :=
  lending.send server sql vs (.ok server.affected)

end Lending

end DataAccess.Wire
