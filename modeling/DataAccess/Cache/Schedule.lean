import DataAccess.Cache.Call

-- Several calls on one store. An action is a step of one call, the end of its computation, or an
-- invalidation between steps; a schedule is any list of actions. A race is the schedule in which
-- the calls take turns in their order, each turn going on until the call has to wait.
namespace DataAccess.Cache

structure Call (κ α : Type) where
  request : Request κ
  phase : Phase α

structure Machine (κ α : Type) where
  store : Store κ α
  calls : List (Call κ α)

inductive Action (κ α : Type) where
  | start (r : Request κ)
  | step (call : Nat)
  | finish (call : Nat) (outcome : Except Error α)
  | invalidate (model : Option String)

namespace Machine

def ofStore (store : Store κ α) : Machine κ α := ⟨store,[]⟩

def setPhase (m : Machine κ α) (call : Nat) (phase : Phase α) : Machine κ α :=
  { m with calls := m.calls.modify call fun c => { c with phase } }

def start (m : Machine κ α) (r : Request κ) : Machine κ α :=
  { m with calls := m.calls ++ [⟨r,.starting⟩] }

def step [DecidableEq κ] (m : Machine κ α) (call : Nat) : Machine κ α :=
  match m.calls[call]? with
  | none => m
  | some c =>
    let (store,phase) := m.store.advance call c.request c.phase
    { m with store }.setPhase call phase

def finish (m : Machine κ α) (call : Nat) (outcome : Except Error α) : Machine κ α :=
  match m.calls[call]? with
  | some ⟨_,.computing slot⟩ => m.setPhase call (.ended slot outcome)
  | _ => m

def invalidate (m : Machine κ α) (model : Option String) : Machine κ α :=
  { m with store := (m.store.invalidate model).1 }

def act [DecidableEq κ] (m : Machine κ α) : Action κ α → Machine κ α
  | .start r => m.start r
  | .step call => m.step call
  | .finish call outcome => m.finish call outcome
  | .invalidate model => m.invalidate model

def run [DecidableEq κ] (m : Machine κ α) (actions : List (Action κ α)) : Machine κ α :=
  actions.foldl act m

def result? (m : Machine κ α) (call : Nat) : Option (Bool × Except Error α) :=
  match m.calls[call]? with
  | some ⟨_,.done computed result⟩ => some (computed,result)
  | _ => none

def isDone (m : Machine κ α) : Bool :=
  m.calls.all fun c => match c.phase with
    | .done _ _ => true
    | _ => false

-- A call goes on until it computes, waits or is done. No call takes more than six steps to get
-- there.
def proceed [DecidableEq κ] (m : Machine κ α) (call : Nat) : Machine κ α :=
  m.run (List.replicate 6 (.step call))

def turn [DecidableEq κ] (m : Machine κ α) (call : Nat) (outcome : Except Error α) :
    Machine κ α :=
  (m.finish call outcome).proceed call

def round [DecidableEq κ] (m : Machine κ α) (outcomes : List (Except Error α)) : Machine κ α :=
  outcomes.zipIdx.foldl (fun m (outcome,call) => m.turn call outcome) m

-- Rounds for calls that begin together. Each round but the first ends a computation or finds
-- all calls done, so there is a round more than there are calls.
def race [DecidableEq κ] (store : Store κ α) (calls : List (Request κ × Except Error α)) :
    Machine κ α :=
  let begun := calls.foldl (fun m (r,_) => m.start r) (ofStore store)
  (List.range (calls.length + 1)).foldl (fun m _ => m.round (calls.map (·.2))) begun

end Machine

end DataAccess.Cache
