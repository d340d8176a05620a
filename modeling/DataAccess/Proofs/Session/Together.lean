import DataAccess.Proofs.Cache.Turns
import DataAccess.Proofs.Session.Caching

-- Calls of one cached query that are made together. Their turns are a schedule of the machine in
-- which computations end with what the backend gives.
namespace DataAccess
open Cache

section Turns

variable {type : RecordType ρ} {s : Statement} {calls : List (Call String (List ρ))} {db : Db ρ}

-- The calls and their database when a call has come to this in its turn.
def Db.afterTurn (type : RecordType ρ) (before : Phase (List ρ)) (call : Nat)
    (next : Machine String (List ρ)) (b : Backend) : List (Call String (List ρ)) × Db ρ :=
  (next.calls,⟨b.note (next.calls[call]?.bind fun c => turnEvent? type.model before c.phase),
    next.store⟩)

theorem Db.takeTurn_absent (absent : calls[call]? = none) :
    Db.takeTurn type s calls call db = (calls,db) := by
  simp only [Db.takeTurn,absent]
  rfl

theorem Db.takeTurn_ends (found : (Machine.mk db.store calls).At call r (.computing place)) :
    Db.takeTurn type s calls call db = Db.afterTurn type (.computing place) call
      ((Machine.mk db.store calls).turn call (db.backend.fetch type s))
      (db.backend.perform s .rows).2 := by
  unfold Machine.At at found
  simp only at found
  simp only [Db.takeTurn,found,bind,StateT.bind,ExceptT.run,Db.queryAs_run]
  rfl

theorem Db.takeTurn_goes (found : (Machine.mk db.store calls).At call r phase)
    (other : phase.isComputing = false) : Db.takeTurn type s calls call db =
      Db.afterTurn type phase call ((Machine.mk db.store calls).proceed call) db.backend := by
  unfold Machine.At at found
  simp only at found
  cases phase with
  | computing => cases other
  | _ =>
    simp only [Db.takeTurn,found]
    rfl

theorem Db.takeRounds_succ (type : RecordType ρ) (s : Statement) (rounds : Nat)
    (calls : List (Call String (List ρ))) (db : Db ρ) :
    Db.takeRounds type s (rounds + 1) calls db =
      if (Machine.mk db.store calls).isDone then (calls,db)
      else
        let (calls,db) := (List.range calls.length).foldlM (Db.takeTurn type s) calls db
        Db.takeRounds type s rounds calls db := by
  cases done : (Machine.mk db.store calls).isDone with
  | true =>
    simp only [Db.takeRounds,bind,StateT.bind,get,getThe,MonadStateOf.get,StateT.get,pure,done]
    rfl
  | false =>
    simp only [Db.takeRounds,bind,StateT.bind,get,getThe,MonadStateOf.get,StateT.get,pure,done]
    rfl

end Turns

-- What the calls of a query and their backend have done together: calls took steps, computations
-- ended with what the backend gave, and events were logged.
inductive Fetching (type : RecordType ρ) (s : Statement) (m : Machine String (List ρ)) (b : Backend) :
    List (Action String (List ρ)) → Machine String (List ρ) → Backend → Prop where
  | begin : Fetching type s m b [] m b
  | step (fetching : Fetching type s m b actions next c) (call : Nat) :
      Fetching type s m b (actions ++ [.step call]) (next.step call) c
  | finish (fetching : Fetching type s m b actions next c) (found : next.At call r (.computing place)) :
      Fetching type s m b (actions ++ [.finish call (c.fetch type s)])
        (next.finish call (c.fetch type s)) (c.perform s .rows).2
  | log (fetching : Fetching type s m b actions next c) (event : Event) :
      Fetching type s m b actions next (c.log event)

namespace Fetching

variable {type : RecordType ρ} {s : Statement} {m next : Machine String (List ρ)} {b c : Backend}
  {actions : List (Action String (List ρ))}

theorem run (fetching : Fetching type s m b actions next c) : next = m.run actions := by
  induction fetching with
  | begin => rfl
  | step _ call ih =>
    rw [Machine.run_append,← ih]
    rfl
  | finish _ _ ih =>
    rw [Machine.run_append,← ih]
    rfl
  | log _ _ ih => exact ih

theorem proceed (fetching : Fetching type s m b actions next c) (call n : Nat) :
    ∃ more, Fetching type s m b more (next.run (List.replicate n (.step call))) c := by
  induction n generalizing next actions with
  | zero => exact ⟨actions,fetching⟩
  | succ n ih => exact ih (fetching.step call)

theorem note (fetching : Fetching type s m b actions next c) (event? : Option Event) :
    Fetching type s m b actions next (c.note event?) := by
  cases event? with
  | none => exact fetching
  | some event => exact fetching.log event

end Fetching

-- What was run so was done by calls and backend together.
def Scheduled (type : RecordType ρ) (s : Statement) (m : Machine String (List ρ)) (b : Backend)
    (ran : List (Call String (List ρ)) × Db ρ) : Prop :=
  ∃ actions, Fetching type s m b actions ⟨ran.2.store,ran.1⟩ ran.2.backend

namespace Scheduled

variable {type : RecordType ρ} {s : Statement} {m : Machine String (List ρ)} {b : Backend}
  {calls : List (Call String (List ρ))} {db : Db ρ}

theorem afterTurn {next : Machine String (List ρ)} (fetching : Fetching type s m b actions next c)
    (before : Phase (List ρ)) (call : Nat) :
    Scheduled type s m b (Db.afterTurn type before call next c) := ⟨actions,fetching.note _⟩

theorem takeTurn (scheduled : Scheduled type s m b (calls,db)) (call : Nat) :
    Scheduled type s m b (Db.takeTurn type s calls call db) := by
  cases found : calls[call]? with
  | none =>
    rw [Db.takeTurn_absent found]
    exact scheduled
  | some c =>
    obtain ⟨r,phase⟩ := c
    obtain ⟨actions,fetching⟩ := scheduled
    have here : (Machine.mk db.store calls).At call r phase := found
    cases computing : phase.isComputing with
    | false =>
      rw [Db.takeTurn_goes here computing]
      obtain ⟨more,goes⟩ := fetching.proceed call 6
      exact afterTurn goes phase call
    | true =>
      cases phase with
      | computing place =>
        rw [Db.takeTurn_ends here]
        obtain ⟨more,goes⟩ := (fetching.finish here).proceed call 6
        exact afterTurn goes _ call
      | _ => cases computing

theorem turns (scheduled : Scheduled type s m b (calls,db)) (order : List Nat) :
    Scheduled type s m b (order.foldlM (Db.takeTurn type s) calls db) := by
  induction order generalizing calls db with
  | nil => exact scheduled
  | cons call order ih => exact ih (scheduled.takeTurn call)

theorem takeRounds (scheduled : Scheduled type s m b (calls,db)) (rounds : Nat) :
    Scheduled type s m b (Db.takeRounds type s rounds calls db) := by
  induction rounds generalizing calls db with
  | zero => exact scheduled
  | succ rounds ih =>
    rw [Db.takeRounds_succ]
    split
    · exact scheduled
    · exact ih (scheduled.turns _)

end Scheduled

theorem run_starts [DecidableEq κ] (r : Request κ) (n : Nat) (store : Store κ α) (calls : List (Call κ α)) :
    (Machine.mk store calls).run (List.replicate n (.start r)) =
      ⟨store,calls ++ List.replicate n ⟨r,.starting⟩⟩ := by
  induction n generalizing calls with
  | zero => exact congrArg (Machine.mk store) (List.append_nil calls).symm
  | succ n ih =>
    have begun : (Machine.mk store calls).act (.start r) = ⟨store,calls ++ [⟨r,.starting⟩]⟩ := rfl
    rw [List.replicate_succ,Machine.run,List.foldl_cons,begun]
    exact (ih _).trans (congrArg (Machine.mk store) (List.append_cons _ _ _).symm)

-- A query that is made several times at once is a run of the machine in which so many calls begin
-- together, and its answers are theirs.
theorem Db.queryTogether_scheduled (type : RecordType ρ) (s : Statement) (n : Nat) (db : Db ρ) :
    ∃ begun m actions,
      begun = (Machine.ofStore db.store).run (List.replicate n (.start (Db.request type s))) ∧
      m = begun.run actions ∧
      Fetching type s begun db.backend actions m (Db.queryTogether type s n db).2.backend ∧
      m.store = (Db.queryTogether type s n db).2.store ∧
      m.calls.filterMap (fun c => c.phase.answer?) = (Db.queryTogether type s n db).1 := by
  have begun := run_starts (Db.request type s) n db.store []
  have scheduled : Scheduled type s ⟨db.store,List.replicate n ⟨Db.request type s,.starting⟩⟩ db.backend
      (List.replicate n ⟨Db.request type s,.starting⟩,db) := ⟨[],.begin⟩
  obtain ⟨actions,fetching⟩ := scheduled.takeRounds (n + 1)
  exact ⟨_,_,actions,begun.symm,fetching.run,fetching,rfl,rfl⟩

end DataAccess
