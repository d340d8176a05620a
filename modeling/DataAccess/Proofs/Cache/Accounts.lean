import DataAccess.Proofs.Cache.Retention
import DataAccess.Proofs.Cache.Table

-- The accounts of a store. Each call counts one hit or one miss, a miss if its own computation ran;
-- and a slot that is led to but empty is in the hand of a call that has not returned.
namespace DataAccess.Cache

inductive Counter where
  | hits
  | misses

def Store.count (s : Store κ α) : Counter → Nat
  | .hits => s.hits
  | .misses => s.misses

namespace Phase

-- What a call has counted so far. One that replaces a result counts its miss before it computes.
def counted : Counter → Phase α → Bool
  | .hits,.done false _ => true
  | .misses,.done true _ => true
  | .misses,.computing none | .misses,.ended none _ => true
  | _,_ => false

-- Whether a call's own computation has begun.
def hasBegun : Phase α → Bool
  | .computing _ | .ended _ _ | .failing _ _ | .done true _ => true
  | _ => false

theorem counted_once (phase : Phase α) : (phase.counted .hits).toNat + (phase.counted .misses).toNat =
    phase.isReturned.toNat + phase.replaces.toNat := by
  cases phase with
  | computing place | ended place outcome => cases place <;> rfl
  | done computed result => cases computed <;> rfl
  | _ => rfl

end Phase

namespace Move

variable {s after : Store κ α} {r : Request κ} {phase next : Phase α}

-- A counter goes up by one when a call counts, and otherwise stays.
theorem count_with_calls (moved : Move s call r phase after next) (counter : Counter) :
    after.count counter + (phase.counted counter).toNat =
      s.count counter + (next.counted counter).toNat := by
  cases moved with
  | share asked | refuse asked =>
    cases phase with
    | entering | waiting => cases counter <;> rfl
    | _ => cases asked
  | discard =>
    unfold Store.discardEmpty
    cases counter <;> split <;> rfl
  | _ => cases counter <;> rfl

theorem counted_stays (moved : Move s call r phase after next) (counted : phase.counted counter) :
    next.counted counter = true := by
  cases moved with
  | share asked | refuse asked =>
    cases phase with
    | entering | waiting => cases counter <;> cases counted
    | _ => cases asked
  | compute | rest => exact counted
  | replace | abandon =>
    cases counter with
    | hits => cases counted
    | misses => rfl
  | _ => cases counter <;> cases counted

-- A computation has begun before a step, or begins with it.
theorem hasBegun_next (moved : Move s call r phase after next) :
    next.hasBegun = (phase.hasBegun || next.isComputing) := by
  cases moved with
  | share asked | refuse asked =>
    cases phase with
    | entering | waiting => rfl
    | _ => cases asked
  | rest => exact (Bool.or_false _).symm
  | _ => rfl

-- A call that lets go of a slot has filled it, found it filled, or taken it from its key.
theorem in_hand_of_empty (moved : Move s call r phase after next) (has : phase.slot? = some slot)
    (made : slot < s.cells.length) (leads : after.slot? r.key = some slot)
    (empty : after.entry? slot = none) : next.slot? = some slot := by
  cases moved with
  | hit filled | clash filled =>
    cases has
    cases filled.symm.trans empty
  | share asked filled | refuse asked filled =>
    cases (Phase.asking_slot asked).symm.trans has
    cases filled.symm.trans empty
  | @fill own v =>
    cases has
    change ((s.fill slot ⟨r.kind,v⟩).cell slot).entry = none at empty
    rw [Store.fill,Store.cell_setCell_self _ made] at empty
    cases empty
  | @discard own e =>
    cases has
    have same : Store.entry? (s.countMiss.discardEmpty r.key slot) slot = s.entry? slot := by
      unfold Store.discardEmpty
      split <;> rfl
    rw [same] at empty
    rw [Store.slot?_discardEmpty] at leads
    split at leads
    · cases leads
    · rename_i kept
      exact absurd ⟨rfl,leads,empty⟩ kept
  | reuse | make | replace | abandon | rest => cases has
  | _ => exact has

-- A call that makes a slot and does not fill it has it in hand.
theorem in_hand_of_made (moved : Move s call r phase after next) (grown : s.cells.length < after.cells.length)
    (empty : after.entry? s.cells.length = none) : next.slot? = some s.cells.length := by
  cases moved with
  | make => rfl
  | replace =>
    rw [Store.entry?,Store.replace,Store.cell_newSlot_self] at empty
    cases empty
  | permit | queue | fill | fail =>
    simp [Store.hold,Store.await,Store.fill,Store.passOn,Store.setCell,Store.countMiss] at grown
  | discard =>
    unfold Store.discardEmpty at grown
    split at grown <;> exact absurd grown (Nat.lt_irrefl _)
  | _ => exact absurd grown (Nat.lt_irrefl _)

end Move

namespace Machine

-- Whether a call is somewhere that passes.
def has (m : Machine κ α) (test : Phase α → Bool) (call : Nat) : Bool :=
  (m.calls[call]?).any fun c => test c.phase

-- What a call adds to a counter with an action.
def adds [DecidableEq κ] (m : Machine κ α) (counter : Counter) (call : Nat) : Action κ α → Nat
  | .step own => if own = call then (m.step own).store.count counter - m.store.count counter else 0
  | _ => 0

-- And while a schedule runs.
def added [DecidableEq κ] (m : Machine κ α) (counter : Counter) (call : Nat) :
    List (Action κ α) → Nat
  | [] => 0
  | a :: rest => m.adds counter call a + (m.act a).added counter call rest

-- A call computed at some time while a schedule ran.
def Ran [DecidableEq κ] (m : Machine κ α) (done : List (Action κ α)) (call : Nat) : Prop :=
  ∃ before after, done = before ++ after ∧ (m.run before).isComputing call = true

-- A key leads to an empty slot only while a call for the key has it in hand.
def Attended (m : Machine κ α) : Prop := ∀ key slot, m.store.slot? key = some slot →
  m.store.entry? slot = none → ∃ call r phase, m.At call r phase ∧ r.key = key ∧
    phase.slot? = some slot

section Counting

variable {m next : Machine κ α} {a : Action κ α}

theorem has_at (found : m.At call r phase) (test : Phase α → Bool) : m.has test call = test phase := by
  unfold At at found
  rw [has,found]
  rfl

theorem has_start (m : Machine κ α) (r : Request κ) {test : Phase α → Bool}
    (fresh : test .starting = false) (call : Nat) : (m.start r).has test call = m.has test call := by
  unfold has start
  rw [List.getElem?_append]
  split
  · rfl
  · rename_i beyond
    rw [List.getElem?_eq_none (Nat.le_of_not_lt beyond)]
    cases new : [(⟨r,.starting⟩ : Call κ α)][call - m.calls.length]? with
    | none => rfl
    | some c =>
      rw [List.mem_singleton.mp (List.mem_of_getElem? new)]
      exact fresh

theorem has_set (found : m.At call r phase) (after : Store κ α) (next : Phase α)
    (test : Phase α → Bool) (other : Nat) :
    (⟨after,m.calls.set call ⟨r,next⟩⟩ : Machine κ α).has test other =
      if call = other then test next else m.has test other := by
  unfold has
  by_cases same : call = other
  · subst same
    rw [if_pos rfl,List.getElem?_set_self (List.getElem?_eq_some_iff.mp found).1]
    rfl
  · rw [if_neg same,List.getElem?_set_ne same]

-- A computation that is under way has begun.
theorem begun_or (m : Machine κ α) (call : Nat) :
    (m.has Phase.hasBegun call || m.has Phase.isComputing call) = m.has Phase.hasBegun call := by
  unfold has
  cases m.calls[call]? with
  | none => rfl
  | some c =>
    cases computing : c.phase with
    | computing place => simp [computing,Phase.hasBegun]
    | _ => simp [computing,Phase.isComputing]

theorem total_add (m : Machine κ α) (f g : Phase α → Nat) :
    m.total (fun phase => f phase + g phase) = m.total f + m.total g := by
  obtain ⟨store,calls⟩ := m
  unfold total
  induction calls with
  | nil => rfl
  | cons c calls ih =>
    simp only [List.foldr_cons] at ih ⊢
    omega

theorem Acts.hasBegun_next (acts : Acts m a next) (call : Nat) : next.has Phase.hasBegun call =
    (m.has Phase.hasBegun call || next.has Phase.isComputing call) := by
  cases acts with
  | start r =>
    change (m.start r).has _ call = (_ || (m.start r).has _ call)
    rw [has_start m r rfl,has_start m r rfl,begun_or]
  | @step own r phase after next found moved =>
    rw [has_set found after next,has_set found after next]
    by_cases same : own = call
    · subst same
      rw [if_pos rfl,if_pos rfl,has_at found]
      exact moved.hasBegun_next
    · rw [if_neg same,if_neg same,begun_or]
  | @finish own r slot outcome found =>
    rw [has_set found,has_set found]
    by_cases same : own = call
    · subst same
      rw [if_pos rfl,if_pos rfl,has_at found]
      rfl
    · rw [if_neg same,if_neg same,begun_or]
  | _ => exact (begun_or m call).symm

theorem counted_finish (counter : Counter) (slot : Option Nat) (outcome : Except Error α) :
    (Phase.ended slot outcome).counted counter = (Phase.computing slot : Phase α).counted counter := by
  cases counter <;> cases slot <;> rfl

-- What the store counts with an action, the calls do.
theorem Acts.count_with_calls (acts : Acts m a next) (counter : Counter) :
    next.store.count counter + m.total (fun phase => (phase.counted counter).toNat) =
      m.store.count counter + next.total fun phase => (phase.counted counter).toNat := by
  cases acts with
  | start r =>
    have weighed := total_push m (fun phase => (phase.counted counter).toNat) r
    have none : ((.starting : Phase α).counted counter).toNat = 0 := by cases counter <;> rfl
    rw [none] at weighed
    exact congrArg (m.store.count counter + ·) weighed.symm
  | @step own r phase after next found moved =>
    have counts := moved.count_with_calls counter
    have weighed := total_set found after next fun phase => (phase.counted counter).toNat
    change after.count counter + _ = _
    omega
  | @finish own r slot outcome found =>
    have weighed := total_set found m.store (.ended slot outcome) fun phase =>
      (phase.counted counter).toNat
    rw [counted_finish] at weighed
    exact congrArg (m.store.count counter + ·) (Nat.add_right_cancel weighed).symm
  | @invalidate model => cases counter <;> rfl
  | noCall | noComputation => rfl

variable [DecidableEq κ]

-- And each call what it adds itself.
theorem Acts.counted_next (acts : Acts m a next) (now : m.act a = next) (counter : Counter) (call : Nat) :
    (next.has (·.counted counter) call).toNat =
      (m.has (·.counted counter) call).toNat + m.adds counter call a := by
  cases acts with
  | start r =>
    have fresh : (.starting : Phase α).counted counter = false := by cases counter <;> rfl
    exact congrArg Bool.toNat (has_start m r fresh call)
  | @step own r phase after next found moved =>
    rw [has_set found after next,Machine.adds,show m.step own = _ from now]
    by_cases same : own = call
    · subst same
      have counts := moved.count_with_calls counter
      have stays : phase.counted counter = true → next.counted counter = true := moved.counted_stays
      rw [if_pos rfl,if_pos rfl,has_at found]
      change _ = _ + (after.count counter - m.store.count counter)
      cases was : phase.counted counter with
      | false =>
        rw [was,Bool.toNat_false] at counts
        rw [Bool.toNat_false]
        omega
      | true =>
        rw [was,stays was] at counts
        rw [stays was]
        omega
    · rw [if_neg same,if_neg same,Nat.add_zero]
  | @finish own r slot outcome found =>
    rw [has_set found,counted_finish]
    by_cases same : own = call
    · subst same
      rw [if_pos rfl,has_at found]
      rfl
    · rw [if_neg same]
      rfl
  | @noCall own absent =>
    rw [Machine.adds,show m.step own = m from now,Nat.sub_self,ite_self,Nat.add_zero]
  | _ => rfl

theorem added_push (m : Machine κ α) (counter : Counter) (call : Nat) (done : List (Action κ α))
    (a : Action κ α) : m.added counter call (done ++ [a]) =
      m.added counter call done + (m.run done).adds counter call a := by
  induction done generalizing m with
  | nil => exact Nat.add_comm _ _
  | cons b done ih =>
    rw [List.cons_append,added,added,ih,Nat.add_assoc]
    rfl

theorem ran_push (m : Machine κ α) (done : List (Action κ α)) (a : Action κ α) (call : Nat) :
    m.Ran (done ++ [a]) call ↔ m.Ran done call ∨ (m.run (done ++ [a])).isComputing call = true := by
  constructor
  · rintro ⟨before,after,split,computing⟩
    rcases List.eq_nil_or_concat after with rfl | ⟨more,b,rfl⟩
    · rw [List.append_nil] at split
      rw [split]
      exact .inr computing
    · rw [List.concat_eq_append,← List.append_assoc] at split
      exact .inl ⟨before,more,(List.append_inj' split rfl).1,computing⟩
  · rintro (⟨before,after,rfl,computing⟩ | computing)
    · exact ⟨before,after ++ [a],by simp,computing⟩
    · exact ⟨done ++ [a],[],by simp,computing⟩

end Counting

-- What the counters and the calls say about a schedule that has run.
structure Ledger [DecidableEq κ] (s : Store κ α) (done : List (Action κ α)) (m : Machine κ α) : Prop where
  total : ∀ counter, m.store.count counter =
    s.count counter + m.total fun phase => (phase.counted counter).toNat
  own : ∀ counter call, (ofStore s).added counter call done = (m.has (·.counted counter) call).toNat
  begun : ∀ call, (ofStore s).Ran done call ↔ m.has Phase.hasBegun call = true

section Running

variable [DecidableEq κ] {s : Store κ α} {done : List (Action κ α)} {m : Machine κ α}

theorem Ledger.act (ledger : Ledger s done m) (reached : (ofStore s).run done = m) (a : Action κ α) :
    Ledger s (done ++ [a]) (m.act a) where
  total counter := by
    have counts := (m.acts_act a).count_with_calls counter
    have known := ledger.total counter
    omega
  own counter call := by
    rw [added_push,reached,ledger.own,← (m.acts_act a).counted_next rfl]
  begun call := by
    have now : (ofStore s).run (done ++ [a]) = m.act a := by
      rw [run_append,reached]
      rfl
    rw [ran_push,now,ledger.begun,(m.acts_act a).hasBegun_next,Bool.or_eq_true]
    rfl

theorem empty_ledger (s : Store κ α) : Ledger s [] (ofStore s) where
  total _ := rfl
  own _ _ := rfl
  begun call := by
    constructor
    · rintro ⟨before,after,split,computing⟩
      obtain ⟨rfl,_⟩ := List.append_eq_nil_iff.mp split.symm
      cases computing
    · intro begun
      cases begun

theorem Ledger.run (ledger : Ledger s done m) (reached : (ofStore s).run done = m)
    (later : List (Action κ α)) : Ledger s (done ++ later) ((ofStore s).run (done ++ later)) := by
  induction later generalizing done m with
  | nil =>
    rw [List.append_nil,reached]
    exact ledger
  | cons a later ih =>
    have after : (ofStore s).run (done ++ [a]) = m.act a := by
      rw [run_append,reached]
      rfl
    rw [List.append_cons]
    exact ih (ledger.act reached a) after

theorem Ledger.count_eq_total (ledger : Ledger Store.empty done m) (counter : Counter) :
    m.store.count counter = m.total fun phase => (phase.counted counter).toNat := by
  have zero : (Store.empty : Store κ α).count counter = 0 := by cases counter <;> rfl
  have counts := ledger.total counter
  rwa [zero,Nat.zero_add] at counts

theorem Ledger.added_of_done (ledger : Ledger s done m) (found : m.At call r (.done computed result)) :
    (computed = true ↔ (ofStore s).Ran done call) ∧
      (ofStore s).added .hits call done = (!computed).toNat ∧
      (ofStore s).added .misses call done = computed.toNat := by
  rw [ledger.begun,ledger.own,ledger.own,has_at found,has_at found,has_at found]
  cases computed <;> exact ⟨by simp [Phase.hasBegun],rfl,rfl⟩

theorem Ledger.added_of_unfinished (ledger : Ledger s done m) (found : m.At call r phase)
    (unfinished : phase.isReturned = false) : (ofStore s).added .hits call done = 0 ∧
      (ofStore s).added .misses call done = phase.replaces.toNat := by
  rw [ledger.own,ledger.own,has_at found,has_at found]
  cases phase with
  | computing place | ended place outcome => cases place <;> exact ⟨rfl,rfl⟩
  | done computed result => cases unfinished
  | _ => exact ⟨rfl,rfl⟩

theorem run_ledger (s : Store κ α) (actions : List (Action κ α)) :
    Ledger s actions ((ofStore s).run actions) := (empty_ledger s).run rfl actions

end Running

section Attending

variable {m next : Machine κ α} {a : Action κ α}

theorem Attended.act (acts : Acts m a next) (sound : m.Sound) (attended : m.Attended) :
    next.Attended := by
  intro key slot leads empty
  have before : m.store.slot? key = some slot → m.store.entry? slot = none := by
    intro led
    cases filled : m.store.entry? slot with
    | none => rfl
    | some entry =>
      cases (acts.entry?_kept sound (sound.wired.made (.inl led)) filled).symm.trans empty
  cases acts with
  | start r =>
    obtain ⟨call,own,phase,found,mine,has⟩ := attended key slot leads empty
    have inside := (List.getElem?_eq_some_iff.mp found).1
    exact ⟨call,own,phase,(List.getElem?_append_left inside).trans found,mine,has⟩
  | @step own r phase after next found moved =>
    have here := (List.getElem?_eq_some_iff.mp found).1
    have now : (m.calls.set own ⟨r,next⟩)[own]? = some ⟨r,next⟩ := List.getElem?_set_self here
    rcases moved.slot?_before_or_made leads with led | ⟨rfl,rfl,grown⟩
    · obtain ⟨call,r',phase',was,rfl,has⟩ := attended key slot led (before led)
      by_cases same : own = call
      · subst same
        cases found.symm.trans was
        have made := sound.wired.made (.inl led)
        exact ⟨own,r,next,now,rfl,moved.in_hand_of_empty has made leads empty⟩
      · exact ⟨call,r',phase',(List.getElem?_set_ne same).trans was,rfl,has⟩
    · exact ⟨own,r,next,now,rfl,moved.in_hand_of_made grown empty⟩
  | @finish own r place outcome found =>
    obtain ⟨call,r',phase',was,rfl,has⟩ := attended key slot leads empty
    by_cases same : own = call
    · subst same
      cases found.symm.trans was
      have here := (List.getElem?_eq_some_iff.mp found).1
      exact ⟨own,r,_,List.getElem?_set_self here,rfl,has⟩
    · exact ⟨call,r',phase',(List.getElem?_set_ne same).trans was,rfl,has⟩
  | @invalidate model =>
    change (m.store.invalidate model).1.slot? key = some slot at leads
    rw [Store.slot?_invalidate] at leads
    split at leads
    · cases leads
    · exact attended key slot leads (before leads)
  | noCall | noComputation => exact attended key slot leads empty

theorem Attended.held_of_empty (attended : m.Attended) (keyed : m.store.Keyed)
    (member : (key,slot) ∈ m.store.slots) (empty : m.store.entry? slot = none) : ∃ call r phase,
      m.At call r phase ∧ phase.isReturned = false ∧ r.key = key ∧ phase.slot? = some slot := by
  obtain ⟨call,r,phase,found,own,has⟩ := attended key slot (lookup_of_mem keyed member) empty
  refine ⟨call,r,phase,found,?_,own,has⟩
  cases phase with
  | done computed result => cases has
  | _ => rfl

-- When all calls have returned, nothing that is led to is empty.
theorem Attended.filled_of_done (attended : m.Attended) (keyed : m.store.Keyed) (done : m.isDone = true) :
    ∀ place ∈ m.store.slots, (m.store.entry? place.2).isSome = true := by
  intro place member
  cases filled : m.store.entry? place.2 with
  | some entry => rfl
  | none =>
    obtain ⟨call,r,phase,found,underway,_⟩ := attended.held_of_empty keyed member filled
    have returned : phase.isReturned = true :=
      List.all_eq_true.mp done ⟨r,phase⟩ (List.mem_of_getElem? found)
    cases underway.symm.trans returned

-- So what an invalidation takes away is what there is, of all models or of one.
theorem Attended.invalidated_of_done (attended : m.Attended) (keyed : m.store.Keyed) (done : m.isDone = true) :
    (m.store.invalidate none).2 = m.store.entryCount ∧
      ∀ name, (m.store.invalidate (some name)).2 = (m.store.slots.filter fun place =>
        place.1.model = name ∧ (m.store.entry? place.2).isSome = true).length := by
  have filled := attended.filled_of_done keyed done
  rw [Store.invalidate_eq,Store.entryCount,List.countP_eq_length_filter]
  refine ⟨congrArg List.length (List.filter_congr fun place member => (filled place member).symm),
    fun name => ?_⟩
  rw [Store.invalidate_eq,List.countP_eq_length_filter]
  refine congrArg List.length (List.filter_congr fun place member => ?_)
  rw [filled place member]
  exact decide_eq_decide.mpr (iff_self_and.mpr fun _ => rfl)

theorem reached_attended [DecidableEq κ] (actions : List (Action κ α)) :
    ((ofStore Store.empty).run actions).Attended := by
  have each : ∀ {m : Machine κ α} {a next}, Acts m a next → True →
      m.Sound ∧ m.Attended → next.Sound ∧ next.Attended := by
    intro m a next acts _ ⟨sound,attended⟩
    exact ⟨sound.act acts,attended.act acts sound⟩
  have initial : (ofStore (Store.empty : Store κ α)).Attended := by
    intro key slot leads
    cases leads
  exact (run_preserves (fun m => m.Sound ∧ m.Attended) (fun _ _ => True) each
    ⟨empty_sound,initial⟩ fun _ _ _ _ => trivial).2

end Attending

-- What a machine's counters and slots say when a schedule has run.
structure Balanced [DecidableEq κ] (actions : List (Action κ α)) (m : Machine κ α) : Prop where
  total : m.store.hits + m.store.misses = m.returned + m.total fun phase => phase.replaces.toNat
  hits : m.store.hits = m.total fun phase => (phase.counted .hits).toNat
  misses : m.store.misses = m.total fun phase => (phase.counted .misses).toNat
  finished : m.At call r (.done computed result) →
    (computed = true ↔ (ofStore Store.empty).Ran actions call) ∧
      (ofStore Store.empty).added .hits call actions = (!computed).toNat ∧
      (ofStore Store.empty).added .misses call actions = computed.toNat
  unfinished : m.At call r phase → phase.isReturned = false →
    (ofStore Store.empty).added .hits call actions = 0 ∧
      (ofStore Store.empty).added .misses call actions = phase.replaces.toNat
  empty : (key,slot) ∈ m.store.slots → m.store.entry? slot = none → ∃ call r phase,
    m.At call r phase ∧ phase.isReturned = false ∧ r.key = key ∧ phase.slot? = some slot
  filled : m.isDone = true → ∀ place ∈ m.store.slots, (m.store.entry? place.2).isSome = true
  invalidated : m.isDone = true → (m.store.invalidate none).2 = m.store.entryCount ∧
    ∀ name, (m.store.invalidate (some name)).2 = (m.store.slots.filter fun place =>
      place.1.model = name ∧ (m.store.entry? place.2).isSome = true).length

-- Calls for any keys and kinds, however they take their steps and whatever their computations come
-- to, with invalidations in between.
theorem accounts_balance [DecidableEq κ] (actions : List (Action κ α)) :
    Balanced actions ((ofStore Store.empty).run actions) := by
  have ledger : Ledger Store.empty actions _ := run_ledger (Store.empty : Store κ α) actions
  have keyed : ((ofStore (Store.empty : Store κ α)).run actions).store.Keyed := reached_keyed actions
  have attended : ((ofStore (Store.empty : Store κ α)).run actions).Attended :=
    reached_attended actions
  generalize (ofStore (Store.empty : Store κ α)).run actions = m at ledger keyed attended ⊢
  have hits : m.store.hits = m.total fun phase => (phase.counted .hits).toNat :=
    ledger.count_eq_total .hits
  have misses : m.store.misses = m.total fun phase => (phase.counted .misses).toNat :=
    ledger.count_eq_total .misses
  constructor
  · rw [hits,misses,← total_add,returned,← total_add]
    exact congrArg m.total (funext Phase.counted_once)
  · exact hits
  · exact misses
  · exact ledger.added_of_done
  · exact ledger.added_of_unfinished
  · exact attended.held_of_empty keyed
  · exact attended.filled_of_done keyed
  · exact attended.invalidated_of_done keyed

end Machine

end DataAccess.Cache
