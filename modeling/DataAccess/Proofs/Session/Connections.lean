import DataAccess.Proofs.Session.Operations

-- Connections that are borrowed and given back. Operations go on in small steps, any number of them
-- at a time, while the pool lends or refuses and the backend answers as they please. A step of an
-- errand takes a connection, sends the errand's one statement on it or gives it back, so that what
-- is out at any time is what the operations that are between the two have in hand.
namespace DataAccess
open Backend

-- How far an operation has come: before its next step, or with a connection in hand.
inductive Progress (ρ α : Type) where
  | going (p : Program ρ α)
  | lent (errand : Errand) (next : Except Error Outcome → Program ρ α)
  | answered (errand : Errand) (result : Except Error Outcome)
      (next : Except Error Outcome → Program ρ α)

namespace Progress

def holds : Progress ρ α → Bool
  | going _ => false
  | lent _ _ | answered _ _ _ => true

def isOver : Progress ρ α → Bool
  | going (.done _) => true
  | _ => false

-- One constructor for each thing that can happen next, with what is written into the journal and
-- the answer that an errand has. Whether a connection is lent, what reply comes, and what other
-- operations have made of the cache meanwhile is left open.
inductive Moves : Progress ρ α → List Act → Option (Except Error Outcome) → Progress ρ α → Prop where
  | log : Moves (.going (.log event rest)) [.log event] none (.going rest)
  | store (found : Cache.Store String (List ρ)) :
      Moves (.going (.store change next)) [] none (.going (next found))
  | refuse (e : Error) : Moves (.going (.borrow errand next)) ((errand.denial e).map Act.log)
      (some (.error e)) (.going (next (.error e)))
  | lend : Moves (.going (.borrow errand next)) [.acquire] none (.lent errand next)
  | send (reply : Option Reply) :
      Moves (.lent errand next) [.send errand.wanted errand.sql errand.params] none
        (.answered errand (outcomeOf errand.wanted reply) next)
  | giveBack : Moves (.answered errand result next)
      (.release :: (errand.verdict result).map Act.log) (some result) (.going (next result))

inductive Goes : Progress ρ α → List Act → List (Except Error Outcome) → Progress ρ α → Prop where
  | stays : Goes p [] [] p
  | step (moves : Moves p acts answer? q) (further : Goes q more answers r) :
      Goes p (acts ++ more) (answer?.toList ++ answers) r

section Going

variable {p q : Progress ρ α} {acts : List Act} {answers : List (Except Error Outcome)}

theorem count_logged (events : List Event) {act : Act} (other : ∀ event, act ≠ .log event) :
    (events.map Act.log).count act = 0 := by
  rw [List.count_eq_zero,List.mem_map]
  rintro ⟨event,_,same⟩
  exact other event same.symm

-- What is taken and not given back is in hand.
theorem Moves.balance (moves : Moves p acts answer? q) :
    acts.count .acquire + p.holds.toNat = acts.count .release + q.holds.toNat := by
  have logged (events : List Event) : (events.map Act.log).count .acquire = 0 ∧
      (events.map Act.log).count .release = 0 :=
    ⟨count_logged events fun _ => Act.noConfusion,count_logged events fun _ => Act.noConfusion⟩
  cases moves with
  | refuse e =>
    rw [(logged _).1,(logged _).2]
    rfl
  | giveBack =>
    rw [List.count_cons,List.count_cons,(logged _).1,(logged _).2]
    rfl
  | _ => rfl

theorem Goes.balance (goes : Goes p acts answers q) :
    acts.count .acquire + p.holds.toNat = acts.count .release + q.holds.toNat := by
  induction goes with
  | stays => rfl
  | step moves _ ih =>
    have own := moves.balance
    rw [List.count_append,List.count_append]
    omega

end Going

-- Where an errand and what came of it have brought an operation.
inductive Course (errand : Errand) (next : Except Error Outcome → Program ρ α) :
    List Act → List (Except Error Outcome) → Progress ρ α → Prop where
  | before : Course errand next [] [] (.going (.borrow errand next))
  | lent : Course errand next [.acquire] [] (.lent errand next)
  | sent (reply : Option Reply) :
      Course errand next [.acquire,.send errand.wanted errand.sql errand.params] []
        (.answered errand (outcomeOf errand.wanted reply) next)
  | refused (e : Error) (further : Goes (.going (next (.error e))) more answers q) :
      Course errand next ((errand.denial e).map Act.log ++ more) (.error e :: answers) q
  | answered (reply : Option Reply) (same : outcomeOf errand.wanted reply = result)
      (further : Goes (.going (next result)) more answers q) :
      Course errand next (errand.exchange result ++ more) (result :: answers) q

-- An errand takes one connection at most, sends one statement on it, its own, and has given the
-- connection back when it is answered, whatever the answer.
theorem Goes.course (goes : Goes (.going (.borrow errand next)) acts answers q) :
    Course errand next acts answers q := by
  cases goes with
  | stays => exact .before
  | step moves further =>
    cases moves with
    | refuse e => exact .refused e further
    | lend =>
      cases further with
      | stays => exact .lent
      | step moves further =>
        cases moves with
        | send reply =>
          cases further with
          | stays => exact .sent reply
          | step moves further =>
            cases moves with
            | giveBack =>
              have course : Course errand next _ _ _ := .answered reply rfl further
              simpa [Errand.exchange] using course

-- What runs on a database is one of the ways that an operation may go.
theorem goes_run (p : Program ρ α) (db : Db ρ) : ∃ acts answers,
    Goes (.going p) acts answers (.going (.done (p.run db).1)) ∧
      (p.run db).2.backend.journal.toList = db.backend.journal.toList ++ acts := by
  induction p generalizing db with
  | done a => exact ⟨[],[],.stays,(List.append_nil _).symm⟩
  | log event rest ih =>
    obtain ⟨acts,answers,goes,written⟩ := ih { db with backend := db.backend.log event }
    refine ⟨_,_,.step .log goes,written.trans ?_⟩
    simp [Backend.log,record]
  | store change next ih =>
    obtain ⟨acts,answers,goes,written⟩ := ih db.store { db with store := change db.store }
    exact ⟨_,_,.step (.store db.store) goes,written⟩
  | borrow errand next ih =>
    obtain ⟨acts,answers,goes,written⟩ := ih (errand.perform db.backend).1
      { db with backend := (errand.perform db.backend).2 }
    rw [Program.run_borrow]
    cases lent : db.backend.availability.refusal? with
    | some e =>
      have performed : errand.perform db.backend =
          (.error e,{ db.backend with journal := db.backend.journal ++ (errand.denial e).map Act.log }) := by
        simp only [Errand.perform,lent]
      rw [performed] at goes written ⊢
      refine ⟨_,_,.step (.refuse e) goes,written.trans ?_⟩
      simp
    | none =>
      have performed : errand.perform db.backend =
          (outcomeOf errand.wanted db.backend.replies.head?,
            { db.backend with
              replies := db.backend.replies.tail
              journal := db.backend.journal ++
                errand.exchange (outcomeOf errand.wanted db.backend.replies.head?) }) := by
        simp only [Errand.perform,lent]
      rw [performed] at goes written ⊢
      refine ⟨_,_,.step .lend (.step (.send db.backend.replies.head?) (.step .giveBack goes)),
        written.trans ?_⟩
      simp [Errand.exchange]

-- Operations that have met an error and come to a good end.
def Ends (good : α → Prop) : Progress ρ α → Prop
  | going p => p.Ends good
  | lent _ _ | answered _ _ _ => False

-- Operations that have met none and will pass it on.
def Passes (tells : Error → α → Prop) : Progress ρ α → Prop
  | going p => p.Passes tells
  | lent errand next => (Program.borrow errand next).Passes tells
  | answered _ (.ok outcome) next => (next (.ok outcome)).Passes tells
  | answered _ (.error e) next => (next (.error e)).Ends (tells e)

section Telling

variable {p q : Progress ρ α} {tells : Error → α → Prop}

theorem Moves.ends {good : α → Prop} (moves : Moves p acts answer? q) (ends : p.Ends good) :
    answer? = none ∧ q.Ends good := by
  cases moves with
  | log => exact ⟨rfl,ends⟩
  | store found => exact ⟨rfl,ends found⟩
  | refuse | lend | send | giveBack => exact ends.elim

theorem Goes.ends {good : α → Prop} (goes : Goes p acts answers q) (ends : p.Ends good) :
    answers = [] ∧ q.Ends good := by
  induction goes with
  | stays => exact ⟨rfl,ends⟩
  | step moves _ ih =>
    obtain ⟨rfl,further⟩ := moves.ends ends
    exact ih further

theorem answered_passes {next : Except Error Outcome → Program ρ α} :
    (answered errand result next).Passes tells ↔
    (∀ outcome, result = .ok outcome → (next result).Passes tells) ∧
      ∀ e, result = .error e → (next result).Ends (tells e) := by
  cases result with
  | ok outcome => exact ⟨fun passes => ⟨fun _ _ => passes,nofun⟩,fun both => both.1 outcome rfl⟩
  | error e =>
    refine ⟨fun ends => ⟨nofun,fun _ same => ?_⟩,fun both => both.2 e rfl⟩
    cases same
    exact ends

-- A step meets no error, and then passes one on that comes later, or meets one that ends all.
theorem Moves.passes (moves : Moves p acts answer? q) (passes : p.Passes tells) :
    (∀ e, answer? ≠ some (.error e)) ∧ q.Passes tells ∨
      ∃ e, answer? = some (.error e) ∧ q.Ends (tells e) := by
  cases moves with
  | log => exact .inl ⟨nofun,passes⟩
  | store found => exact .inl ⟨nofun,passes found⟩
  | refuse e => exact .inr ⟨e,rfl,passes.2 e⟩
  | lend => exact .inl ⟨nofun,passes⟩
  | send reply =>
    refine .inl ⟨nofun,answered_passes.mpr ⟨fun outcome same => ?_,fun e same => ?_⟩⟩
    · rw [same]
      exact passes.1 outcome
    · rw [same]
      exact passes.2 e
  | giveBack =>
    obtain ⟨passing,ending⟩ := answered_passes.mp passes
    rename_i result _
    cases result with
    | ok outcome => exact .inl ⟨nofun,passing outcome rfl⟩
    | error e => exact .inr ⟨e,rfl,ending e rfl⟩

-- An error is the last answer, and what the operation comes to tells it.
theorem Goes.told (goes : Goes p acts answers q) (passes : p.Passes tells)
    (failed : answers = before ++ .error e :: after) : after = [] ∧ q.Ends (tells e) := by
  induction goes generalizing before with
  | stays => simp at failed
  | @step _ _ answer? _ _ _ _ moves further ih =>
    rcases moves.passes passes with ⟨fine,later⟩ | ⟨met,rfl,ended⟩
    · cases answer? with
      | none => exact ih later failed
      | some result =>
        cases before with
        | nil =>
          cases failed
          exact absurd rfl (fine e)
        | cons first before => exact ih later (List.cons.inj failed).2
    · obtain ⟨rfl,last⟩ := further.ends ended
      cases before with
      | nil =>
        cases failed
        exact ⟨rfl,last⟩
      | cons first before => simp at failed

end Telling

end Progress

-- An operation that was asked for, as far as it has come.
structure Flight (ρ : Type) : Type 1 where
  {ε α : Type}
  operation : Operation ρ ε α
  progress : Progress ρ (Except ε α)

-- Operations of any number of callers, and the journal that they write together.
structure Traffic (ρ : Type) : Type 1 where
  journal : List Act
  flights : List (Flight ρ)

namespace Traffic

def outstanding (t : Traffic ρ) : Nat := Act.outstanding t.journal

inductive Step : Traffic ρ → Traffic ρ → Prop where
  | ask (operation : Operation ρ ε α) :
      Step t ⟨t.journal,t.flights ++ [⟨operation,.going operation.programmed.program⟩]⟩
  | move (moves : Progress.Moves progress acts answer? next) :
      Step ⟨written,before ++ ⟨operation,progress⟩ :: after⟩
        ⟨written ++ acts,before ++ ⟨operation,next⟩ :: after⟩

inductive Reached : Traffic ρ → Prop where
  | start : Reached ⟨[],[]⟩
  | step (reached : Reached t) (step : Step t u) : Reached u

-- The operations that have a connection in hand.
def holding (t : Traffic ρ) : Nat := t.flights.countP fun flight => flight.progress.holds

-- What was taken and not given back is in the hands of operations.
def Balanced (t : Traffic ρ) : Prop :=
  t.journal.count .acquire = t.journal.count .release + t.holding

theorem Step.balanced {t u : Traffic ρ} (step : Step t u) (balanced : t.Balanced) : u.Balanced := by
  unfold Balanced holding at balanced ⊢
  cases step with
  | ask operation =>
    rw [List.countP_append]
    exact balanced
  | move moves =>
    have own := moves.balance
    have number (b : Bool) : b.toNat = if b = true then 1 else 0 := by cases b <;> rfl
    rw [number,number] at own
    simp only [List.countP_append,List.countP_cons,List.count_append] at balanced ⊢
    omega

theorem Reached.balanced {t : Traffic ρ} (reached : Reached t) : t.Balanced := by
  induction reached with
  | start => rfl
  | step _ step ih => exact step.balanced ih

theorem Reached.outstanding {t : Traffic ρ} (reached : Reached t) : t.outstanding = t.holding := by
  rw [Traffic.outstanding,Act.outstanding,reached.balanced,Nat.add_sub_cancel_left]

theorem holding_over {t : Traffic ρ} (closed : ∀ flight ∈ t.flights, flight.progress.isOver = true) :
    t.holding = 0 := by
  refine List.countP_eq_zero.mpr fun flight member holds => ?_
  have ended := closed flight member
  cases come : flight.progress with
  | going p =>
    rw [come] at holds
    cases holds
  | lent | answered =>
    rw [come] at ended
    cases ended

end Traffic

theorem Act.outstanding_balanced (journal : List Act) {acts : List Act}
    (balanced : acts.count .acquire = acts.count .release) :
    Act.outstanding (journal ++ acts) = Act.outstanding journal := by
  rw [Act.outstanding,Act.outstanding,List.count_append,List.count_append,balanced,Nat.add_sub_add_right]

-- What an operation does, whatever the pool and the backend do.
structure Faithful (operation : Operation ρ ε α) : Prop where
  runs : ∀ db, operation.task db = operation.programmed.program.run db
  goes : ∀ db, ∃ acts answers, Progress.Goes (.going operation.programmed.program) acts answers
      (.going (.done (operation.task db).1)) ∧
    (operation.task db).2.backend.journal.toList = db.backend.journal.toList ++ acts ∧
      acts.count .acquire = acts.count .release
  restores : ∀ db, (operation.task db).2.backend.outstanding = db.backend.outstanding
  tells : ∀ acts answers answer, Progress.Goes (.going operation.programmed.program) acts answers
      (.going (.done answer)) → ∀ before e after, answers = before ++ .error e :: after →
    after = [] ∧ operation.Tells e answer

theorem Operation.faithful (operation : Operation ρ ε α) : Faithful operation := by
  have courses : ∀ db, ∃ acts answers, Progress.Goes (.going operation.programmed.program) acts answers
      (.going (.done (operation.task db).1)) ∧
        (operation.task db).2.backend.journal.toList = db.backend.journal.toList ++ acts ∧
          acts.count .acquire = acts.count .release := by
    intro db
    obtain ⟨acts,answers,goes,written⟩ := Progress.goes_run operation.programmed.program db
    rw [operation.programmed.runs]
    exact ⟨acts,answers,goes,written,goes.balance⟩
  refine ⟨operation.programmed.runs,courses,?_,?_⟩
  · intro db
    obtain ⟨acts,answers,_,written,balanced⟩ := courses db
    rw [Backend.outstanding,written]
    exact Act.outstanding_balanced _ balanced
  · intro acts answers answer goes before e after failed
    exact goes.told operation.programmed.passes failed

-- A connection is borrowed for one statement at a time and given back: an errand takes one at most,
-- sends its own statement once and has given it back when it is answered; what is out is what the
-- errands under way have in hand, and nothing when no operation is under way; and the error of an
-- errand is the end of its operation, whose caller is told it.
theorem connections_given_back (ρ : Type) :
    (∀ (b : Backend) s wanted, b.perform s wanted = (Errand.statement s wanted).perform b) ∧
    (∀ b : Backend, b.ping = ((Errand.ping.perform b).1.isOk,(Errand.ping.perform b).2)) ∧
    (∀ (α : Type) errand (next : Except Error Outcome → Program ρ α) acts answers q,
      Progress.Goes (.going (.borrow errand next)) acts answers q →
        Progress.Course errand next acts answers q) ∧
    (∀ (ε α : Type) (operation : Operation ρ ε α), Faithful operation) ∧
    ∀ t : Traffic ρ, t.Reached → t.outstanding = t.holding ∧
      ((∀ flight ∈ t.flights, flight.progress.isOver = true) → t.outstanding = 0) := by
  refine ⟨Errand.perform_statement,Errand.perform_ping,fun _ _ _ _ _ _ goes => goes.course,
    fun _ _ operation => operation.faithful,fun t reached => ⟨reached.outstanding,fun closed => ?_⟩⟩
  rw [reached.outstanding,Traffic.holding_over closed]

end DataAccess
