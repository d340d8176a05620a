import DataAccess.Proofs.Cache.Places
import DataAccess.Proofs.Cache.Progress

-- Calls for one key that its store does not have. However they take their steps, one of them
-- computes and the others have its result. The store and the calls are in one of four stages:
-- nothing has happened, the key has an empty slot, one call computes for it, or its result is
-- there.
namespace DataAccess.Cache

-- Calls for one request, of which no computation fails, and no invalidation.
def Machine.Concerted (r : Request κ) : Action κ α → Prop
  | .start own => own = r
  | .step _ => True
  | .finish _ outcome => outcome.isOk
  | .invalidate _ => False

-- How far the calls for a key have come together: the call that computes, and those that queue
-- behind it; the call that has computed, what it got, and how many others were served with it.
inductive Stage (α : Type) where
  | untouched
  | opened
  | flying (owner : Nat) (queue : List Nat)
  | landed (owner : Nat) (v : α) (n : Nat)

namespace Stage

def owner? : Stage α → Option Nat
  | flying owner _ | landed owner _ _ => some owner
  | untouched | opened => none

-- Computations that were begun.
def begun : Stage α → Nat
  | flying _ _ | landed _ _ _ => 1
  | untouched | opened => 0

-- Calls that have returned.
def returned : Stage α → Nat
  | landed _ _ n => n + 1
  | _ => 0

def hits : Stage α → Nat
  | landed _ _ n => n
  | _ => 0

def misses : Stage α → Nat
  | landed _ _ _ => 1
  | _ => 0

def cell (kind : κ) : Stage α → Cell κ α
  | flying owner queue => ⟨none,some owner,queue⟩
  | landed _ v _ => ⟨some ⟨kind,v⟩,none,[]⟩
  | untouched | opened => .empty

def store (s : Store κ α) (r : Request κ) : Stage α → Store κ α
  | untouched => s
  | stage =>
    { s.newSlot r.key (stage.cell r.kind) with
      hits := s.hits + stage.hits
      misses := s.misses + stage.misses }

-- Where a call may be. The call that computes is nowhere else.
inductive Admits (slot : Nat) (stage : Stage α) (call : Nat) : Phase α → Prop where
  | starting (apart : stage.owner? ≠ some call) : Admits slot stage call .starting
  | found (apart : stage.owner? ≠ some call) (made : stage ≠ .untouched) :
      Admits slot stage call (.found slot)
  | entering (apart : stage.owner? ≠ some call) (made : stage ≠ .untouched) :
      Admits slot stage call (.entering slot)
  | waiting (apart : stage.owner? ≠ some call) (held : stage.owner?.isSome) :
      Admits slot stage call (.waiting slot)
  | computing (own : stage = .flying call queue) : Admits slot stage call (.computing (some slot))
  | ended (own : stage = .flying call queue) : Admits slot stage call (.ended (some slot) (.ok v))
  | returned (own : stage = .landed call v n) : Admits slot stage call (.done true (.ok v))
  | served (apart : owner ≠ call) (landed : stage = .landed owner v n) :
      Admits slot stage call (.done false (.ok v))

-- One constructor for each thing that a step of a call can do to the stage.
inductive Goes (call : Nat) : Stage α → Stage α → Prop where
  | stays : Goes call stage stage
  | opens : Goes call .untouched .opened
  | takesOff : Goes call .opened (.flying call [])
  | queues : Goes call (.flying owner queue) (.flying owner (queue ++ [call]))
  | lands : Goes call (.flying call queue) (.landed call v 0)
  | serves : Goes call (.landed owner v n) (.landed owner v (n + 1))

-- The computations that begin and the calls that return are counted as a call goes on.
def Tallies (phase next : Phase α) (stage stage' : Stage α) : Prop :=
  stage'.begun = stage.begun + (if !phase.isComputing && next.isComputing then 1 else 0) ∧
    stage'.returned + phase.isReturned.toNat = stage.returned + next.isReturned.toNat

theorem Goes.unowned {stage next : Stage α} (goes : Goes call stage next) (apart : call ≠ other)
    (theirs : stage.owner? ≠ some other) : next.owner? ≠ some other := by
  cases goes with
  | takesOff => exact fun same => apart (Option.some.inj same)
  | opens => nofun
  | stays | queues | lands | serves => exact theirs

theorem Goes.made {stage next : Stage α} (goes : Goes call stage next) (made : stage ≠ .untouched) :
    next ≠ .untouched := by
  cases goes with
  | stays => exact made
  | _ => nofun

theorem Goes.held {stage next : Stage α} (goes : Goes call stage next) (held : stage.owner?.isSome) :
    next.owner?.isSome := by
  cases goes with
  | opens | takesOff => cases held
  | stays | queues | lands | serves => exact held

theorem Goes.flying {next : Stage α} (goes : Goes call (.flying other queue) next)
    (apart : call ≠ other) : ∃ queue, next = .flying other queue := by
  cases goes with
  | stays => exact ⟨_,rfl⟩
  | queues => exact ⟨_,rfl⟩
  | lands => exact absurd rfl apart

theorem Goes.landed {next : Stage α} (goes : Goes call (.landed owner v n) next) :
    ∃ n, next = .landed owner v n := by
  cases goes with
  | stays => exact ⟨_,rfl⟩
  | serves => exact ⟨_,rfl⟩

theorem Goes.owns {stage next : Stage α} (goes : Goes call stage next)
    (now : next.owner? = some owner) : owner = call ∨ stage.owner? = some owner := by
  cases goes with
  | takesOff => exact .inl (Option.some.inj now).symm
  | opens => cases now
  | stays | queues | lands | serves => exact .inr now

-- What one call does leaves the others where they may be.
theorem Goes.admits {stage next : Stage α} (goes : Goes call stage next) (apart : call ≠ other)
    (admits : stage.Admits slot other phase) : next.Admits slot other phase := by
  cases admits with
  | starting theirs => exact .starting (goes.unowned apart theirs)
  | found theirs made => exact .found (goes.unowned apart theirs) (goes.made made)
  | entering theirs made => exact .entering (goes.unowned apart theirs) (goes.made made)
  | waiting theirs held => exact .waiting (goes.unowned apart theirs) (goes.held held)
  | computing own =>
    subst own
    obtain ⟨queue,own⟩ := goes.flying apart
    exact .computing own
  | ended own =>
    subst own
    obtain ⟨queue,own⟩ := goes.flying apart
    exact .ended own
  | returned own =>
    subst own
    obtain ⟨n,own⟩ := goes.landed
    exact .returned own
  | served theirs landed =>
    subst landed
    obtain ⟨n,landed⟩ := goes.landed
    exact .served theirs landed

section Moving

variable {s after : Store κ α} {r : Request κ} {stage : Stage α} {phase next : Phase α}

theorem store_made (made : stage ≠ .untouched) : stage.store s r =
    { s.newSlot r.key (stage.cell r.kind) with
      hits := s.hits + stage.hits
      misses := s.misses + stage.misses } := by
  cases stage with
  | untouched => exact absurd rfl made
  | _ => rfl

theorem slot?_store (made : stage ≠ .untouched) :
    (stage.store s r).slot? r.key = some s.cells.length := by
  rw [store_made made]
  exact (s.slot?_newSlot r.key r.key (stage.cell r.kind)).trans (if_pos rfl)

theorem cell_store (made : stage ≠ .untouched) :
    (stage.store s r).cell s.cells.length = stage.cell r.kind := by
  rw [store_made made]
  exact s.cell_newSlot_self r.key (stage.cell r.kind)

theorem setCell_store (made : stage ≠ .untouched) (cell : Cell κ α) :
    (stage.store s r).setCell s.cells.length cell =
      { s.newSlot r.key cell with
        hits := s.hits + stage.hits
        misses := s.misses + stage.misses } := by
  rw [store_made made]
  simp [Store.setCell,Store.newSlot]

-- Only what was computed is ever in the slot of the key.
theorem entry?_store (made : stage ≠ .untouched)
    (filled : Store.entry? (stage.store s r) s.cells.length = some entry) :
    ∃ owner v n, stage = .landed owner v n ∧ entry = ⟨r.kind,v⟩ := by
  rw [Store.entry?,cell_store made] at filled
  cases stage with
  | landed owner v n => exact ⟨owner,v,n,rfl,(Option.some.inj filled).symm⟩
  | _ => cases filled

theorem entry_landed : Store.entry? ((.landed owner v n : Stage α).store s r) s.cells.length =
    some ⟨r.kind,v⟩ := by
  have made : (.landed owner v n : Stage α) ≠ .untouched := nofun
  rw [Store.entry?,cell_store made]
  rfl

-- What a step of a call does to the store and the call, it does to the stage.
def Carries (s : Store κ α) (r : Request κ) (call : Nat) (stage : Stage α) (phase : Phase α)
    (after : Store κ α) (next : Phase α) : Prop :=
  ∃ stage', Goes call stage stage' ∧ after = stage'.store s r ∧
    stage'.Admits s.cells.length call next ∧ Tallies phase next stage stage'

-- Who finds it there is served with it.
theorem serves_of_entry (reads : phase.isComputing = false ∧ phase.isReturned = false)
    (apart : stage.owner? ≠ some call) (made : stage ≠ .untouched)
    (filled : Store.entry? (stage.store s r) s.cells.length = some entry) :
    Carries s r call stage phase (stage.store s r).countHit (.done false (.ok entry.value)) := by
  obtain ⟨owner,v,n,rfl,rfl⟩ := entry?_store made filled
  refine ⟨.landed owner v (n + 1),.serves,rfl,.served (fun same => apart (congrArg some same)) rfl,?_⟩
  rw [Tallies,reads.1,reads.2]
  exact ⟨rfl,rfl⟩

theorem same_kind (made : stage ≠ .untouched)
    (filled : Store.entry? (stage.store s r) s.cells.length = some entry) : entry.kind = r.kind := by
  obtain ⟨owner,v,n,rfl,rfl⟩ := entry?_store made filled
  rfl

theorem carries_starting (unled : s.slot? r.key = none) (apart : stage.owner? ≠ some call)
    (moved : Move (stage.store s r) call r .starting after next) :
    Carries s r call stage .starting after next := by
  cases moved with
  | reuse leads =>
    by_cases made : stage = .untouched
    · subst made
      cases unled.symm.trans leads
    · cases (slot?_store made).symm.trans leads
      exact ⟨stage,.stays,rfl,.found apart made,⟨rfl,rfl⟩⟩
  | make unknown =>
    by_cases made : stage = .untouched
    · subst made
      exact ⟨.opened,.opens,rfl,.found (by simp [owner?]) (by simp),⟨rfl,rfl⟩⟩
    · cases (slot?_store made).symm.trans unknown
  | share asked | refuse asked => cases asked

theorem carries_entering (apart : stage.owner? ≠ some call) (made : stage ≠ .untouched)
    (moved : Move (stage.store s r) call r (.entering s.cells.length) after next) :
    Carries s r call stage (.entering s.cells.length) after next := by
  cases moved with
  | share asked filled same =>
    cases asked
    exact serves_of_entry ⟨rfl,rfl⟩ apart made filled
  | refuse asked filled other =>
    cases asked
    exact absurd (same_kind made filled) other
  | permit empty free =>
    rw [Store.hold,setCell_store made,cell_store made]
    rw [cell_store made] at free
    cases stage with
    | untouched => exact absurd rfl made
    | opened => exact ⟨.flying call [],.takesOff,rfl,.computing rfl,⟨rfl,rfl⟩⟩
    | flying owner queue => cases free
    | landed owner v n =>
      rw [Store.entry?,cell_store made] at empty
      cases empty
  | queue empty held =>
    rw [Store.await,setCell_store made,cell_store made]
    rw [cell_store made] at held
    cases stage with
    | flying owner queue =>
      exact ⟨.flying owner (queue ++ [call]),.queues,rfl,.waiting apart rfl,⟨rfl,rfl⟩⟩
    | _ => cases held

-- None of the calls that wait gets the permit, for the one that has it does not fail.
theorem carries_waiting (apart : stage.owner? ≠ some call) (held : stage.owner?.isSome)
    (moved : Move (stage.store s r) call r (.waiting s.cells.length) after next) :
    Carries s r call stage (.waiting s.cells.length) after next := by
  have made : stage ≠ .untouched := by
    rintro rfl
    cases held
  cases moved with
  | share asked filled same =>
    cases asked
    exact serves_of_entry ⟨rfl,rfl⟩ apart made filled
  | refuse asked filled other =>
    cases asked
    exact absurd (same_kind made filled) other
  | granted empty mine =>
    rw [cell_store made] at mine
    cases stage with
    | flying owner queue => exact absurd mine apart
    | _ => cases mine
  | wait => exact ⟨stage,.stays,rfl,.waiting apart held,⟨rfl,rfl⟩⟩

theorem carries_of_move (unled : s.slot? r.key = none)
    (admits : stage.Admits s.cells.length call phase)
    (moved : Move (stage.store s r) call r phase after next) :
    Carries s r call stage phase after next := by
  cases admits with
  | starting apart => exact carries_starting unled apart moved
  | found apart made =>
    cases moved with
    | miss empty => exact ⟨stage,.stays,rfl,.entering apart made,⟨rfl,rfl⟩⟩
    | hit filled same => exact serves_of_entry ⟨rfl,rfl⟩ apart made filled
    | clash filled other => exact absurd (same_kind made filled) other
    | share asked | refuse asked => cases asked
  | entering apart made => exact carries_entering apart made moved
  | waiting apart held => exact carries_waiting apart held moved
  | computing own =>
    cases moved with
    | compute => exact ⟨stage,.stays,rfl,.computing own,⟨rfl,rfl⟩⟩
    | share asked | refuse asked => cases asked
  | ended own =>
    have made : stage ≠ .untouched := by
      rintro rfl
      cases own
    cases moved with
    | fill =>
      rw [Store.fill,setCell_store made]
      subst own
      exact ⟨.landed call _ 0,.lands,rfl,.returned rfl,⟨rfl,rfl⟩⟩
    | share asked | refuse asked => cases asked
  | returned own =>
    cases moved with
    | rest => exact ⟨stage,.stays,rfl,.returned own,⟨rfl,rfl⟩⟩
    | share asked | refuse asked => cases asked
  | served apart landed =>
    cases moved with
    | rest => exact ⟨stage,.stays,rfl,.served apart landed,⟨rfl,rfl⟩⟩
    | share asked | refuse asked => cases asked

end Moving

end Stage

namespace Machine

-- The stage that the calls for a request have come to since a store, after a schedule.
structure Flight [DecidableEq κ] (s : Store κ α) (r : Request κ) (done : List (Action κ α))
    (stage : Stage α) (m : Machine κ α) : Prop where
  store : m.store = stage.store s r
  placed : m.At call own phase → own = r ∧ stage.Admits s.cells.length call phase
  owned : stage.owner? = some owner → owner < m.calls.length
  begun : (ofStore s).computations done = stage.begun
  computed : m.At call own phase → phase.own? = some v → (ofStore s).Computed done call r v
  returned : m.returned = stage.returned

section Flying

variable [DecidableEq κ] {s : Store κ α} {r : Request κ} {done : List (Action κ α)}
  {stage : Stage α} {m : Machine κ α} {a : Action κ α}

theorem computations_snoc (m : Machine κ α) (done : List (Action κ α)) (a : Action κ α) :
    m.computations (done ++ [a]) = m.computations done + (m.run done).begins a :=
  computations_append m done [a]

theorem Flight.start (flight : Flight s r done stage m) :
    Flight s r (done ++ [.start r]) stage (m.start r) where
  store := flight.store
  placed := by
    intro call own phase now
    rcases at_push now with was | ⟨rfl,rfl,rfl⟩
    · exact flight.placed was
    · exact ⟨rfl,.starting fun own => Nat.lt_irrefl _ (flight.owned own)⟩
  owned := by
    intro owner owns
    have inside := flight.owned owns
    simp only [Machine.start,List.length_append]
    omega
  begun := by rw [computations_snoc,flight.begun]; rfl
  computed := by
    intro call own phase v now has
    rcases at_push now with was | ⟨rfl,rfl,rfl⟩
    · exact (flight.computed was has).further _
    · cases has
  returned := (total_push m _ r).trans flight.returned

theorem Flight.step (unled : s.slot? r.key = none) (flight : Flight s r done stage m)
    (reached : (ofStore s).run done = m) (found : m.At call r phase)
    (moved : Move m.store call r phase after next)
    (stepped : m.step call = ⟨after,m.calls.set call ⟨r,next⟩⟩) :
    ∃ stage', Flight s r (done ++ [.step call]) stage' (m.step call) := by
  have before := (flight.placed found).2
  rw [flight.store] at moved
  obtain ⟨stage',goes,rfl,admitted,begins,returns⟩ := Stage.carries_of_move unled before moved
  rw [stepped]
  refine ⟨stage',rfl,?_,?_,?_,?_,?_⟩
  · intro other own phase' now
    rcases at_set found now with ⟨rfl,rfl,rfl⟩ | ⟨apart,was⟩
    · exact ⟨rfl,admitted⟩
    · obtain ⟨same,stays⟩ := flight.placed was
      exact ⟨same,goes.admits apart stays⟩
  · intro owner owns
    rw [List.length_set]
    rcases goes.owns owns with rfl | owned
    · exact (List.getElem?_eq_some_iff.mp found).1
    · exact flight.owned owned
  · have now : (m.step call).At call r next := by
      rw [stepped]
      exact List.getElem?_set_self (List.getElem?_eq_some_iff.mp found).1
    rw [computations_snoc,flight.begun,reached,Machine.begins,isComputing_at found,
      isComputing_at now,begins]
  · intro other own phase' v now has
    rcases at_set found now with ⟨rfl,rfl,rfl⟩ | ⟨_,was⟩
    · exact (flight.computed found (moved.own? has)).further _
    · exact (flight.computed was has).further _
  · have weighed := total_set found (stage'.store s r) next fun phase => phase.isReturned.toNat
    have counted := flight.returned
    unfold Machine.returned at counted ⊢
    omega

theorem Flight.finish (flight : Flight s r done stage m) (reached : (ofStore s).run done = m)
    (found : m.At call r (.computing place)) (v : α) :
    Flight s r (done ++ [.finish call (.ok v)]) stage
      ⟨m.store,m.calls.set call ⟨r,.ended place (.ok v)⟩⟩ where
  store := flight.store
  placed := by
    intro other own phase now
    rcases at_set found now with ⟨rfl,rfl,rfl⟩ | ⟨_,was⟩
    · cases (flight.placed found).2 with
      | computing owns => exact ⟨rfl,.ended owns⟩
    · exact flight.placed was
  owned := by
    intro owner owns
    rw [List.length_set]
    exact flight.owned owns
  begun := by rw [computations_snoc,flight.begun]; rfl
  computed := by
    intro other own phase w now has
    rcases at_set found now with ⟨rfl,rfl,rfl⟩ | ⟨_,was⟩
    · cases has
      exact ⟨done,[],place,rfl,by rw [reached]; exact found⟩
    · exact (flight.computed was has).further _
  returned := by
    have weighed := total_set found m.store (.ended place (.ok v)) fun phase => phase.isReturned.toNat
    have counted := flight.returned
    unfold Machine.returned at counted ⊢
    exact weighed.trans counted

-- An action that changes nothing.
theorem Flight.same (flight : Flight s r done stage m) (reached : (ofStore s).run done = m)
    (none : m.begins a = 0) : Flight s r (done ++ [a]) stage m where
  store := flight.store
  placed := flight.placed
  owned := flight.owned
  begun := by rw [computations_snoc,flight.begun,reached,none,Nat.add_zero]
  computed now has := (flight.computed now has).further _
  returned := flight.returned

theorem Flight.act (unled : s.slot? r.key = none) (flight : Flight s r done stage m)
    (reached : (ofStore s).run done = m) (concerted : Concerted r a) :
    ∃ stage', Flight s r (done ++ [a]) stage' (m.act a) := by
  have acts := m.acts_act a
  generalize now : m.act a = next at acts ⊢
  cases acts with
  | start own =>
    cases concerted
    exact ⟨stage,flight.start⟩
  | @step call own phase after next found moved =>
    cases (flight.placed found).1
    rw [← now]
    exact flight.step unled reached found moved now
  | @finish call own place outcome found =>
    cases (flight.placed found).1
    cases outcome with
    | ok v => exact ⟨stage,flight.finish reached found v⟩
    | error e => cases concerted
  | invalidate => exact concerted.elim
  | @noCall call absent =>
    refine ⟨stage,flight.same reached ?_⟩
    have idle : m.isComputing call = false := by rw [isComputing,absent]; rfl
    rw [Machine.begins,show m.step call = m from now,idle]
    rfl
  | noComputation => exact ⟨stage,flight.same reached rfl⟩

theorem Flight.run (unled : s.slot? r.key = none) (flight : Flight s r done stage m)
    (reached : (ofStore s).run done = m) {later : List (Action κ α)}
    (concerted : ∀ a ∈ later, Concerted r a) :
    ∃ stage', Flight s r (done ++ later) stage' ((ofStore s).run (done ++ later)) := by
  induction later generalizing done stage m with
  | nil =>
    rw [List.append_nil,reached]
    exact ⟨stage,flight⟩
  | cons a later ih =>
    obtain ⟨stage',further⟩ := flight.act unled reached (concerted a (by simp))
    have after : (ofStore s).run (done ++ [a]) = m.act a := by
      rw [run_append,reached]
      rfl
    rw [List.append_cons]
    exact ih further after fun b member => concerted b (by simp [member])

theorem flight_of_run (unled : s.slot? r.key = none) {actions : List (Action κ α)}
    (concerted : ∀ a ∈ actions, Concerted r a) :
    ∃ stage, Flight s r actions stage ((ofStore s).run actions) := by
  have initial : Flight s r [] .untouched (ofStore s) := by
    refine ⟨rfl,?_,nofun,rfl,?_,rfl⟩
    · intro call own phase now
      cases now
    · intro call own phase v now
      cases now
  exact Flight.run unled initial rfl concerted

-- Where the call that computes is.
theorem Flight.owning (flight : Flight s r done stage m) (owns : stage.owner? = some owner) :
    ∃ phase, m.At owner r phase ∧ ((∃ place, phase = .computing place) ∨
      (∃ place v, phase = .ended place (.ok v)) ∨
        ∃ v n, stage = .landed owner v n ∧ phase = .done true (.ok v)) := by
  obtain ⟨⟨own,phase⟩,found⟩ : ∃ c, m.calls[owner]? = some c :=
    ⟨_,List.getElem?_eq_getElem (flight.owned owns)⟩
  cases (flight.placed found).1
  refine ⟨phase,found,?_⟩
  cases (flight.placed found).2 with
  | starting apart | found apart | entering apart | waiting apart => exact absurd owns apart
  | computing => exact .inl ⟨_,rfl⟩
  | ended => exact .inr (.inl ⟨_,_,rfl⟩)
  | returned landed => exact .inr (.inr ⟨_,_,landed,rfl⟩)
  | served apart landed =>
    subst landed
    exact absurd (Option.some.inj owns) apart

theorem Flight.landed (flight : Flight s r done stage m) (resting : m.Resting)
    (owns : stage.owner? = some owner) : ∃ v n, stage = .landed owner v n := by
  obtain ⟨phase,found,⟨place,rfl⟩ | ⟨place,v,rfl⟩ | ⟨v,n,landed,_⟩⟩ := flight.owning owns
  · exact absurd found (resting.1 _ _ _)
  · rcases resting.waits found with ⟨slot,waits,_⟩ | returns
    · cases waits
    · cases returns
  · exact ⟨v,n,landed⟩

-- At rest all calls have returned: one that waits has another to wait for, which goes on.
theorem Flight.isDone (flight : Flight s r done stage m) (resting : m.Resting) : m.isDone = true := by
  refine List.all_eq_true.mpr fun c member => ?_
  obtain ⟨call,found⟩ := List.mem_iff_getElem?.mp member
  obtain ⟨own,phase⟩ := c
  rcases resting.waits found with ⟨slot,rfl,empty⟩ | returns
  · cases (flight.placed found).2 with
    | waiting apart held =>
      obtain ⟨owner,owns⟩ := Option.isSome_iff_exists.mp held
      obtain ⟨v,n,rfl⟩ := flight.landed resting owns
      rw [flight.store,Stage.entry_landed] at empty
      cases empty
  · exact returns

-- One call computed a value, no other call computed, and the value is the answer of all that have
-- one.
structure Lands (s : Store κ α) (r : Request κ) (actions : List (Action κ α)) (m : Machine κ α)
    (owner : Nat) (v : α) : Prop where
  computed : (ofStore s).Computed actions owner r v
  once : (ofStore s).computations actions = 1
  answers : m.result? call = some (own,result) → result = .ok v ∧ (own = true ↔ call = owner)

theorem Flight.lands (flight : Flight s r done (.landed owner v n) m) : Lands s r done m owner v where
  computed := by
    obtain ⟨phase,found,⟨place,rfl⟩ | ⟨place,w,rfl⟩ | ⟨w,n,landed,rfl⟩⟩ :=
      flight.owning rfl
    · cases (flight.placed found).2 with
      | computing own => cases own
    · cases (flight.placed found).2 with
      | ended own => cases own
    · cases landed
      exact flight.computed found rfl
  once := flight.begun
  answers := by
    intro call own result answered
    obtain ⟨r,found⟩ := at_of_result answered
    cases (flight.placed found).2 with
    | returned landed =>
      cases landed
      exact ⟨rfl,fun _ => rfl,fun _ => rfl⟩
    | served apart landed =>
      cases landed
      exact ⟨rfl,nofun,fun same => absurd same.symm apart⟩

theorem Flight.landed_of_result (flight : Flight s r done stage m)
    (answered : m.result? call = some (own,result)) : ∃ owner v n, stage = .landed owner v n := by
  obtain ⟨r,found⟩ := at_of_result answered
  cases (flight.placed found).2 with
  | returned landed => exact ⟨_,_,_,landed⟩
  | served apart landed => exact ⟨_,_,_,landed⟩

end Flying

-- What becomes of the calls for a request after a schedule. One computation begins, and no more;
-- who has an answer has what it gave. Calls go on until all have returned, which they do after so
-- many changes at most, and then the store counts one miss and a hit for each call but one.
structure SingleFlight [DecidableEq κ] (s : Store κ α) (r : Request κ)
    (actions : List (Action κ α)) (m : Machine κ α) : Prop where
  once : (ofStore s).computations actions ≤ 1
  shares : m.result? call = some answer → ∃ owner v, Lands s r actions m owner v
  rests : m.Resting ↔ m.isDone = true
  ends : ∀ more : List (Action κ α), (∀ a ∈ more, a.continues) →
    (∀ before a after, more = before ++ a :: after → (m.run before).act a ≠ m.run before) →
      more.length ≤ 7 * m.calls.length
  counts : m.isDone = true → m.calls ≠ [] → ∃ owner v, Lands s r actions m owner v ∧
    owner < m.calls.length ∧ m.store.misses = s.misses + 1 ∧
      m.store.hits = s.hits + (m.calls.length - 1) ∧ m.store.find? r.key = some ⟨r.kind,v⟩ ∧
        m.store.entryCount = s.entryCount + 1 ∧
          ∀ other, other ≠ r.key → m.store.find? other = s.find? other

section Landing

variable [DecidableEq κ] {s : Store κ α} {r : Request κ} {actions : List (Action κ α)}
  {m : Machine κ α}

theorem Flight.counts (flight : Flight s r actions (.landed owner v n) m) (keyed : s.Keyed)
    (made : ∀ {key slot}, s.slot? key = some slot → slot < s.cells.length)
    (unled : s.slot? r.key = none) (done : m.isDone = true) :
    m.store.misses = s.misses + 1 ∧ m.store.hits = s.hits + (m.calls.length - 1) ∧
      m.store.find? r.key = some ⟨r.kind,v⟩ ∧ m.store.entryCount = s.entryCount + 1 ∧
        ∀ other, other ≠ r.key → m.store.find? other = s.find? other := by
  have all : m.calls.length = n + 1 := (returned_of_done done).symm.trans flight.returned
  have placed : ∀ place ∈ s.slots, place.2 < s.cells.length := fun place member =>
    made (lookup_of_mem keyed member)
  rw [flight.store,all]
  refine ⟨rfl,rfl,?_,?_,fun other apart => ?_⟩
  · have made : (.landed owner v n : Stage α) ≠ .untouched := nofun
    exact find?_some.mpr ⟨_,Stage.slot?_store made,Stage.entry_landed⟩
  · exact Store.entryCount_newSlot placed unled ⟨some ⟨r.kind,v⟩,none,[]⟩
  · exact Store.find?_newSlot (fun _ => made) apart ⟨some ⟨r.kind,v⟩,none,[]⟩

-- Calls that ask for one key of a store, which is not there to begin with.
theorem single_flight {earlier : List (Action κ α)}
    (reached : ((ofStore Store.empty).run earlier).store = s) (unled : s.slot? r.key = none)
    (concerted : ∀ a ∈ actions, Concerted r a) :
    SingleFlight s r actions ((ofStore s).run actions) := by
  obtain ⟨stage,flight⟩ := flight_of_run unled concerted
  have keyed : s.Keyed := reached ▸ reached_keyed earlier
  have made : ∀ {key slot}, s.slot? key = some slot → slot < s.cells.length := by
    intro key slot leads
    subst reached
    exact (reached_sound earlier).wired.made (.inl leads)
  refine ⟨?_,?_,⟨flight.isDone,resting_of_done⟩,fun more goes changes => ?_,fun done some => ?_⟩
  · rw [flight.begun]
    cases stage <;> simp [Stage.begun]
  · intro call answer answered
    obtain ⟨owner,v,n,rfl⟩ := flight.landed_of_result answered
    exact ⟨owner,v,flight.lands⟩
  · exact Nat.le_trans (changes_bounded goes changes) (left_le _)
  · obtain ⟨c,rest,first⟩ := List.exists_cons_of_ne_nil some
    have found : ((ofStore s).run actions).calls[0]? = .some c := by rw [first]; rfl
    have returned : c.phase.isReturned = true := List.all_eq_true.mp done c (by simp [first])
    obtain ⟨own,phase⟩ := c
    cases phase with
    | done computed result =>
      obtain ⟨owner,v,n,rfl⟩ := flight.landed_of_result (result_done found)
      exact ⟨owner,v,flight.lands,flight.owned rfl,flight.counts keyed made unled done⟩
    | _ => cases returned

-- Three calls, of which one queues and one begins when the result is there.
def threeCalls : List (Action Nat Nat) :=
  [.start ⟨⟨"U","q",[]⟩,0⟩,.start ⟨⟨"U","q",[]⟩,0⟩,.step 1,.step 1,.step 1,.step 0,.step 0,.step 0,
    .finish 1 (.ok 2),.step 1,.step 0,.start ⟨⟨"U","q",[]⟩,0⟩,.step 2,.step 2]

theorem single_flight_of_three : ((ofStore Store.empty).run threeCalls).isDone = true ∧
    SingleFlight Store.empty ⟨⟨"U","q",[]⟩,0⟩ threeCalls ((ofStore Store.empty).run threeCalls) := by
  have fresh : ((ofStore Store.empty).run []).store = (Store.empty : Store Nat Nat) := rfl
  refine ⟨rfl,single_flight fresh rfl ?_⟩
  simp [threeCalls,Concerted,Except.isOk,Except.toBool]

end Landing

end Machine

end DataAccess.Cache
