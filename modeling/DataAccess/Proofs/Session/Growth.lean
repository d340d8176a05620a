import DataAccess.Session.Db

-- What a task does to the database it runs on. It takes replies, in their order, and writes its
-- acts at the end of the journal; whether connections are lent it leaves as it is.
namespace DataAccess

def Act.sent? : Act → Option (Wanted × String × List Value)
  | .send wanted sql params => some (wanted,sql,params)
  | _ => none

namespace Backend

-- The statements that were sent.
def sent (b : Backend) : List (Wanted × String × List Value) := b.journal.toList.filterMap Act.sent?

-- One backend after another: so many replies taken, these acts written.
structure Grown (b : Backend) (acts : List Act) (taken : Nat) (c : Backend) : Prop where
  availability : c.availability = b.availability
  replies : c.replies = b.replies.drop taken
  journal : c.journal.toList = b.journal.toList ++ acts

theorem Grown.refl (b : Backend) : b.Grown [] 0 b := ⟨rfl,rfl,by simp⟩

theorem Grown.trans {b c d : Backend} (first : b.Grown acts n c) (second : c.Grown more m d) :
    b.Grown (acts ++ more) (n + m) d := by
  refine ⟨second.availability.trans first.availability,?_,?_⟩
  · rw [second.replies,first.replies,List.drop_drop]
  · rw [second.journal,first.journal,List.append_assoc]

theorem log_grown (b : Backend) (event : Event) : b.Grown [.log event] 0 (b.log event) :=
  ⟨rfl,rfl,by simp [log,record]⟩

theorem Grown.sent {b c : Backend} (grown : b.Grown acts n c) :
    c.sent = b.sent ++ acts.filterMap Act.sent? := by
  rw [Backend.sent,grown.journal,List.filterMap_append,Backend.sent]

theorem log_sent (b : Backend) (event : Event) : (b.log event).sent = b.sent :=
  (b.log_grown event).sent.trans (List.append_nil _)

-- What is logged of a statement that was sent.
def verdict (s : Statement) : Except Error Outcome → Event
  | .ok outcome =>
    .statementExecuted (QueryType.ofSql s.sql) s.sql s.params.size outcome.count.toNat
  | .error e => .statementFailed (QueryType.ofSql s.sql) s.sql s.params.size e

def exchange (s : Statement) (wanted : Wanted) (result : Except Error Outcome) : List Act :=
  [.acquire,.send wanted s.sql s.params.toList,.release,.log (verdict s result)]

theorem perform_denied {b : Backend} (denied : b.availability.refusal? = some e) (s : Statement)
    (wanted : Wanted) :
    b.perform s wanted = (.error e,b.log (.connectionDenied (QueryType.ofSql s.sql) e)) := by
  simp only [perform,denied]

theorem perform_ready {b : Backend} (ready : b.availability.refusal? = none) (s : Statement)
    (wanted : Wanted) : (b.perform s wanted).1 = outcomeOf wanted b.replies.head? ∧
      b.Grown (exchange s wanted (outcomeOf wanted b.replies.head?)) 1 (b.perform s wanted).2 := by
  have answered : ((b.record .acquire).send wanted s.sql s.params.toList).1 =
      outcomeOf wanted b.replies.head? := rfl
  simp only [perform,ready]
  rw [answered]
  cases outcomeOf wanted b.replies.head? with
  | error e =>
    exact ⟨rfl,rfl,List.drop_one.symm,by simp [log,record,send,exchange,verdict]⟩
  | ok outcome =>
    exact ⟨rfl,rfl,List.drop_one.symm,by simp [log,record,send,exchange,verdict]⟩

theorem perform_sent (b : Backend) (s : Statement) (wanted : Wanted) :
    (b.perform s wanted).2.sent = b.sent ++
      if b.availability.refusal? = none then [(wanted,s.sql,s.params.toList)] else [] := by
  cases lent : b.availability.refusal? with
  | some e => rw [perform_denied lent,log_sent,if_neg nofun,List.append_nil]
  | none => rw [(perform_ready lent s wanted).2.sent,if_pos rfl]; rfl

end Backend

-- A step that may fail in a state, and what comes after it.
theorem bind_run (first : ExceptT ε (StateM σ) α) (next : α → ExceptT ε (StateM σ) β) (s : σ) :
    (first >>= next) s =
      match first s with
      | (.ok a,t) => next a t
      | (.error e,t) => (.error e,t) := by
  change (match first s with | (result,t) => ExceptT.bindCont next result t) = _
  rcases first s with ⟨result,t⟩
  cases result <;> rfl

theorem catch_run (first : ExceptT ε (StateM σ) α) (caught : ε → ExceptT ε (StateM σ) α) (s : σ) :
    tryCatch first caught s =
      match first s with
      | (.ok a,t) => (.ok a,t)
      | (.error e,t) => caught e t := by
  change ExceptT.tryCatch first caught s = _
  rw [ExceptT.tryCatch,ExceptT.mk]
  change StateT.bind first _ s = _
  rw [StateT.bind]
  rcases first s with ⟨result,t⟩
  cases result <;> rfl

end DataAccess
