import DataAccess.Proofs.Session.Connections

-- What an operation comes to, told by the answers that its errands have. Of the way that it goes,
-- over lendings, sendings and what others make of the cache, the answers decide the result, and
-- nothing is sent without an answer once the operation is over.
namespace DataAccess
open Load

namespace Program

inductive Comes : Program ρ α → List (Except Error Outcome) → α → Prop where
  | done : Comes (.done a) [] a
  | log (further : Comes rest answers a) : Comes (.log event rest) answers a
  | store (found : Cache.Store String (List ρ)) (further : Comes (next found) answers a) :
      Comes (.store change next) answers a
  | borrow (result : Except Error Outcome) (further : Comes (next result) answers a) :
      Comes (.borrow errand next) (result :: answers) a

-- A program and what comes after it share the answers between them.
theorem Comes.of_bind {p : Program ρ α} {f : α → Program ρ β} (comes : (p.bind f).Comes answers b) :
    ∃ a first later, answers = first ++ later ∧ p.Comes first a ∧ (f a).Comes later b := by
  induction p generalizing answers with
  | done a => exact ⟨a,[],answers,rfl,.done,comes⟩
  | log event rest ih =>
    cases comes with
    | log further =>
      obtain ⟨a,first,later,rfl,own,next⟩ := ih further
      exact ⟨a,first,later,rfl,.log own,next⟩
  | store change next ih =>
    cases comes with
    | store found further =>
      obtain ⟨a,first,later,rfl,own,next⟩ := ih found further
      exact ⟨a,first,later,rfl,.store found own,next⟩
  | borrow errand next ih =>
    cases comes with
    | borrow result further =>
      obtain ⟨a,first,later,rfl,own,next⟩ := ih result further
      exact ⟨a,result :: first,later,rfl,.borrow result own,next⟩

end Program

namespace Progress

-- What is still to come of an operation, from wherever it is.
def Comes : Progress ρ α → List (Except Error Outcome) → α → Prop
  | going p,answers,a => p.Comes answers a
  | lent errand next,answers,a => (Program.borrow errand next).Comes answers a
  | answered _ result next,answers,a => ∃ later, answers = result :: later ∧ (next result).Comes later a

theorem Moves.comes {p q : Progress ρ α} (moves : Moves p acts answer? q) (comes : q.Comes answers a) :
    p.Comes (answer?.toList ++ answers) a := by
  cases moves with
  | log => exact .log comes
  | store found => exact .store found comes
  | refuse e => exact .borrow _ comes
  | lend => exact comes
  | send reply =>
    obtain ⟨later,rfl,further⟩ := comes
    exact .borrow _ further
  | giveBack => exact ⟨answers,rfl,comes⟩

theorem Goes.comes {p : Progress ρ α} (goes : Goes p acts answers (.going (.done a))) :
    p.Comes answers a := by
  generalize ended : Progress.going (.done a) = q at goes
  induction goes with
  | stays =>
    subst ended
    exact .done
  | step moves _ ih => exact moves.comes (ih ended)

def Sends (acts : List Act) : Prop := ∃ wanted sql params, Act.send wanted sql params ∈ acts

-- What has a connection in hand is answered before it is over.
theorem Goes.answered {p q : Progress ρ α} (goes : Goes p acts answers q) (ended : q.isOver = true)
    (holds : p.holds = true) : answers ≠ [] := by
  induction goes with
  | stays =>
    rename_i q
    cases q with
    | going p => cases holds
    | lent | answered => cases ended
  | step moves _ ih =>
    cases moves with
    | send reply => exact ih ended rfl
    | giveBack => exact List.cons_ne_nil _ _
    | log | store | refuse | lend => cases holds

theorem Goes.sent {p q : Progress ρ α} (goes : Goes p acts answers q) (ended : q.isOver = true)
    (sends : Sends acts) : answers ≠ [] := by
  induction goes with
  | stays =>
    obtain ⟨_,_,_,member⟩ := sends
    cases member
  | step moves further ih =>
    cases moves with
    | log | store | lend =>
      obtain ⟨wanted,sql,params,member⟩ := sends
      refine ih ended ⟨wanted,sql,params,?_⟩
      simpa using member
    | send reply => exact further.answered ended rfl
    | refuse | giveBack => exact List.cons_ne_nil _ _

end Progress

namespace Programmed
open Program

variable {told : ε → Error}

theorem still_comes {result : Except ε α}
    (comes : Program.Comes (still result : Programmed (ρ := ρ) (Fails told) _).program answers fate) :
    answers = [] ∧ fate = result := by
  cases comes
  exact ⟨rfl,rfl⟩

theorem run_comes {s : Statement} (comes : (run (ρ := ρ) s wanted).program.Comes answers fate) :
    answers = [fate] := by
  cases comes with
  | borrow result further =>
    cases further
    rfl

theorem bind_comes {first : ExceptT ε (StateM (Db ρ)) α} {next : α → ExceptT ε (StateM (Db ρ)) β}
    {head : Programmed (Fails told) first} {tail : ∀ a, Programmed (Fails told) (next a)}
    (comes : (head.bind tail).program.Comes answers fate) :
    (∃ a before after, answers = before ++ after ∧ head.program.Comes before (.ok a) ∧
      (tail a).program.Comes after fate) ∨
    ∃ x, fate = .error x ∧ head.program.Comes answers (.error x) := by
  obtain ⟨result,before,after,rfl,own,further⟩ := comes.of_bind
  cases result with
  | ok a => exact .inl ⟨a,before,after,rfl,own,further⟩
  | error x =>
    cases further
    rw [List.append_nil]
    exact .inr ⟨x,rfl,own⟩

theorem after_comes {task : Task ρ α} {report : Report} {programmed : Programmed (Fails id) task}
    (comes : (after report programmed).program.Comes answers fate) :
    ∃ result, fate = result.mapError report.stop ∧ programmed.program.Comes answers result := by
  obtain ⟨result,before,after,rfl,own,further⟩ := comes.of_bind
  cases further
  rw [List.append_nil]
  exact ⟨result,rfl,own⟩

theorem reporting_comes {task : Task ρ α} {programmed : Programmed (Fails id) task}
    {event : Error → Event} (comes : (reporting programmed event).program.Comes answers fate) :
    programmed.program.Comes answers fate := by
  obtain ⟨result,before,after,rfl,own,further⟩ := comes.of_bind
  cases result with
  | ok a =>
    cases further
    rwa [List.append_nil]
  | error e =>
    cases further with
    | log further =>
      cases further
      rwa [List.append_nil]

theorem ite_comes [Decidable c] {first second : ExceptT ε (StateM (Db ρ)) α}
    {tells : Error → Except ε α → Prop} {yes : Programmed tells first} {no : Programmed tells second}
    (comes : (ite (c := c) yes no).program.Comes answers fate) :
    c ∧ yes.program.Comes answers fate ∨ ¬c ∧ no.program.Comes answers fate := by
  change (if c then yes.program else no.program).Comes answers fate at comes
  split at comes
  · rename_i holds
    exact .inl ⟨holds,comes⟩
  · rename_i fails
    exact .inr ⟨fails,comes⟩

section Binding

variable {next : α → ExceptT ε (StateM (Db ρ)) β} {tail : ∀ a, Programmed (Fails told) (next a)}

-- What is known without an errand ends an operation, or is followed by the rest of it.
theorem known_comes {known : Except ε α}
    (comes : ((still known).bind tail).program.Comes answers fate) :
    (∃ a, known = .ok a ∧ (tail a).program.Comes answers fate) ∨
    ∃ x, known = .error x ∧ answers = [] ∧ fate = .error x := by
  cases known with
  | ok a => exact .inl ⟨a,rfl,comes⟩
  | error x =>
    cases comes
    exact .inr ⟨x,rfl,rfl,rfl⟩

end Binding

theorem logged_comes {event : Event} {next : Unit → Task ρ β}
    {tail : ∀ u, Programmed (Fails id) (next u)}
    (comes : ((log event).bind tail).program.Comes answers fate) :
    (tail ()).program.Comes answers fate := by
  cases comes with
  | log further => exact further

-- A statement that is run comes to what is read of its one answer.
theorem read_comes {s : Statement} {read : Outcome → α}
    (comes : ((run (ρ := ρ) s wanted).bind fun outcome => still (.ok (read outcome))).program.Comes
      answers fate) : (∃ outcome, answers = [.ok outcome] ∧ fate = .ok (read outcome)) ∨
        ∃ e, answers = [.error e] ∧ fate = .error e := by
  rcases bind_comes comes with ⟨outcome,before,after,rfl,own,further⟩ | ⟨e,rfl,own⟩
  · obtain ⟨rfl,rfl⟩ := still_comes further
    rw [run_comes own]
    exact .inl ⟨outcome,rfl,rfl⟩
  · exact .inr ⟨e,run_comes own,rfl⟩

section Loading

variable {next : α → LoadTask ρ β} {report : Report}
  {tail : ∀ a, Programmed (Fails Stopped.cause) (next a)}

-- The same where what is first ends a load.
theorem after_known_comes {known : Except Error α}
    (comes : ((after report (still known)).bind tail).program.Comes answers fate) :
    (∃ a, known = .ok a ∧ (tail a).program.Comes answers fate) ∨
    ∃ e, known = .error e ∧ answers = [] ∧ fate = .error (report.stop e) := by
  cases known with
  | ok a => exact .inl ⟨a,rfl,comes⟩
  | error e =>
    cases comes
    exact .inr ⟨e,rfl,rfl,rfl⟩

theorem after_logged_comes {next : Unit → LoadTask ρ β}
    {tail : ∀ u, Programmed (Fails Stopped.cause) (next u)} {event : Event}
    (comes : ((after report (log event)).bind tail).program.Comes answers fate) :
    (tail ()).program.Comes answers fate := by
  cases comes with
  | log further => exact further

end Loading

end Programmed

end DataAccess
