import DataAccess.Cache.Store
import DataAccess.Error

-- A call for a result, step by step. Each step either looks at the store and changes it under one
-- lock, or is the start or end of the call's own computation, so that calls may take their steps in
-- any order between each other. The step with which a call returns counts it too: a call's count
-- and its return are one moment, also where the count is made before the lock is taken, as that of
-- a computation that failed.
namespace DataAccess.Cache

structure Request (κ : Type) where
  key : Key
  kind : κ
  deriving DecidableEq

-- How far a call has come. A computation for a slot fills the slot's cell; one without a slot
-- replaces a result of another kind.
inductive Phase (α : Type) where
  | starting
  | found (slot : Nat)
  | entering (slot : Nat)
  | waiting (slot : Nat)
  | computing (slot : Option Nat)
  | ended (slot : Option Nat) (outcome : Except Error α)
  | failing (slot : Nat) (e : Error)
  | done (computed : Bool) (result : Except Error α)

def Phase.answer? : Phase α → Option (Except Error α)
  | .done _ result => some result
  | _ => none

def Request.conflict (r : Request κ) : Error := .dataMapping r.key.model .otherCachedType

namespace Store

def afterWait [DecidableEq κ] (s : Store κ α) (r : Request κ) (entry : Entry κ α) :
    Store κ α × Phase α :=
  (s.countHit,.done false (if entry.kind = r.kind then .ok entry.value else .error r.conflict))

-- The next step of a call. A call that waits, or whose computation is under way, stays as it
-- is.
def advance [DecidableEq κ] (s : Store κ α) (call : Nat) (r : Request κ) :
    Phase α → Store κ α × Phase α
  | .starting => ((s.slotFor r.key).1,.found (s.slotFor r.key).2)
  | .found slot =>
    match s.entry? slot with
    | none => (s,.entering slot)
    | some entry =>
      if entry.kind = r.kind then (s.countHit,.done false (.ok entry.value))
      else (s.countMiss,.computing none)
  | .entering slot =>
    match s.entry? slot,(s.cell slot).holder with
    | some entry,_ => s.afterWait r entry
    | none,none => (s.hold slot call,.computing (some slot))
    | none,some _ => (s.await slot call,.waiting slot)
  | .waiting slot =>
    match s.entry? slot with
    | some entry => s.afterWait r entry
    | none =>
      if (s.cell slot).holder = some call then (s,.computing (some slot))
      else (s,.waiting slot)
  | .ended (some slot) (.ok v) =>
    ((s.fill slot ⟨r.kind,v⟩).countMiss,.done true (.ok v))
  | .ended (some slot) (.error e) => (s.passOn slot,.failing slot e)
  | .failing slot e => (s.countMiss.discardEmpty r.key slot,.done true (.error e))
  | .ended none (.ok v) => (s.replace r.key ⟨r.kind,v⟩,.done true (.ok v))
  | .ended none (.error e) => (s,.done true (.error e))
  | .computing slot => (s,.computing slot)
  | .done computed result => (s,.done computed result)

def enter [DecidableEq κ] (s : Store κ α) (r : Request κ) : Store κ α × Phase α :=
  let (s,phase) := s.advance 0 r .starting
  let (s,phase) := s.advance 0 r phase
  s.advance 0 r phase

def settle [DecidableEq κ] (s : Store κ α) (r : Request κ) (slot : Option Nat)
    (outcome : Except Error α) : Store κ α :=
  let (s,phase) := s.advance 0 r (.ended slot outcome)
  (s.advance 0 r phase).1

-- A whole call that runs alone: the store after it, whether the call computed, and its result.
-- The outcome of a computation is known beforehand here.
def getOrCompute [DecidableEq κ] (s : Store κ α) (r : Request κ) (outcome : Except Error α) :
    Store κ α × Bool × Except Error α :=
  match s.enter r with
  | (s,.done computed result) => (s,computed,result)
  | (s,.computing slot) => (s.settle r slot outcome,true,outcome)
  | (s,_) => (s,true,outcome)

end Store

end DataAccess.Cache
