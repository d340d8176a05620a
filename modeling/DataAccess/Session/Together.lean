import DataAccess.Cache.Schedule
import DataAccess.Session.Db

-- One cached query made several times at once. The calls take turns in their order. A call that has
-- sent the query gets its answer in its next turn, so the others meet it on its way: those that
-- want the same slot filled wait for it, and those that replace a result of another kind send the
-- query too.
namespace DataAccess

def turnEvent? (model : String) : Cache.Phase α → Cache.Phase α → Option Event
  | .starting,.done false _ => some (.cacheHit model)
  | .waiting _,.done false _ => some (.cacheHitAfterWait model)
  | .computing (some _),.done true (.ok _) => some (.cacheMiss model)
  | _,_ => none

namespace Db

def takeTurn (type : RecordType ρ) (s : Statement) (calls : List (Cache.Call String (List ρ)))
    (call : Nat) : StateM (Db ρ) (List (Cache.Call String (List ρ))) := do
  match calls[call]? with
  | none => return calls
  | some ⟨_,before⟩ =>
    let next ← match before with
      | .computing _ => do
        let outcome ← (queryAs type s).run
        pure ((Cache.Machine.mk (← get).store calls).turn call outcome)
      | _ => pure ((Cache.Machine.mk (← get).store calls).proceed call)
    let event? := next.calls[call]?.bind fun c => turnEvent? type.model before c.phase
    modify fun db => ⟨db.backend.note event?,next.store⟩
    return next.calls

-- Rounds of turns until every call has its answer, and so many rounds at most.
def takeRounds (type : RecordType ρ) (s : Statement) :
    Nat → List (Cache.Call String (List ρ)) → StateM (Db ρ) (List (Cache.Call String (List ρ)))
  | 0,calls => return calls
  | rounds + 1,calls => do
    if (Cache.Machine.mk (← get).store calls).isDone then return calls
    takeRounds type s rounds (← (List.range calls.length).foldlM (takeTurn type s) calls)

-- The results of so many calls of one cached query that begin together. Each round but the
-- first ends a computation, so there is one round more than there are calls.
def queryTogether (type : RecordType ρ) (s : Statement) (n : Nat) :
    StateM (Db ρ) (List (Except Error (List ρ))) := do
  let calls ← takeRounds type s (n + 1) (List.replicate n ⟨request type s,.starting⟩)
  return calls.filterMap fun c => c.phase.answer?

end Db

end DataAccess
