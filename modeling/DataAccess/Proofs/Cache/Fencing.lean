import DataAccess.Proofs.Cache.Answers

-- Which results calls are served with that begin after an invalidation. Slots that an invalidation
-- took away are never led to again, so a result that was under way for one of them is not kept. A
-- result that replaces one of another kind needs no slot, and it is kept whenever it comes.
namespace DataAccess.Cache

namespace Machine

-- A call for a request began its computation while a schedule ran.
def Began [DecidableEq κ] (m : Machine κ α) (actions : List (Action κ α)) (call : Nat)
    (r : Request κ) : Prop :=
  ∃ before after place, actions = before ++ .step call :: after ∧
    (∀ other, ¬(m.run before).At call r (.computing other)) ∧
      (m.run (before ++ [.step call])).At call r (.computing place)

-- A value is the result of a computation for a request that began while a schedule ran.
def Produced [DecidableEq κ] (m : Machine κ α) (actions : List (Action κ α)) (r : Request κ)
    (v : α) : Prop :=
  ∃ call before after place, actions = before ++ .finish call (.ok v) :: after ∧
    m.Began before call r ∧ (m.run before).At call r (.computing place)

-- Places for results that were not there when there were so many slots.
def Fresh (made : Nat) (place : Option Nat) : Prop := ∀ slot, place = some slot → made ≤ slot

theorem fresh_none (made : Nat) : Fresh made none := by
  intro slot same
  cases same

-- What holds of the covered keys at each point of a schedule that begins with their invalidation.
structure Fenced [DecidableEq κ] (start : Machine κ α) (model : Option String)
    (actions : List (Action κ α)) (m : Machine κ α) : Prop where
  grown : start.store.cells.length ≤ m.store.cells.length
  led : covers model key → m.store.slot? key = some slot → start.store.cells.length ≤ slot
  placed : covers model r.key → m.At call r phase → start.calls.length ≤ call →
    phase.slot? = some slot → start.store.cells.length ≤ slot
  began : covers model r.key → m.At call r (.computing place) →
    Fresh start.store.cells.length place → start.Began actions call r
  ended : covers model r.key → m.At call r (.ended place (.ok v)) →
    Fresh start.store.cells.length place → start.Produced actions r v
  filled : covers model key → m.Leads key slot → start.store.cells.length ≤ slot →
    m.store.entry? slot = some entry → start.Produced actions ⟨key,entry.kind⟩ entry.value
  answered : covers model r.key → m.At call r (.done computed (.ok v)) →
    start.calls.length ≤ call → start.Produced actions r v

section Running

variable [DecidableEq κ] {start m next : Machine κ α} {r : Request κ}
  {done : List (Action κ α)} {a : Action κ α}

theorem Began.further (began : start.Began done call r) (a : Action κ α) :
    start.Began (done ++ [a]) call r := by
  obtain ⟨before,after,place,rfl,resting,computing⟩ := began
  exact ⟨before,after ++ [a],place,by simp,resting,computing⟩

theorem Produced.further (produced : start.Produced done r v) (a : Action κ α) :
    start.Produced (done ++ [a]) r v := by
  obtain ⟨call,before,after,place,rfl,began,computing⟩ := produced
  exact ⟨call,before,after ++ [a],place,by simp,began,computing⟩

theorem Fenced.led_act (fenced : Fenced start model done m) (acts : Acts m a next)
    (covered : covers model key) (now : next.store.slot? key = some slot) :
    start.store.cells.length ≤ slot := by
  rcases acts.slot?_before_or_made now with before | ⟨rfl,_⟩
  · exact fenced.led covered before
  · exact fenced.grown

theorem Fenced.placed_act (fenced : Fenced start model done m) (acts : Acts m a next)
    (covered : covers model r.key) (now : next.At call r phase) (late : start.calls.length ≤ call)
    (has : phase.slot? = some slot) : start.store.cells.length ≤ slot := by
  rcases acts.call_before now with ⟨was,_⟩ | ⟨_,_,rfl⟩ | ⟨before,was,_,moved⟩ | ⟨place,_,was,_,rfl,_⟩
  · exact fenced.placed covered was late has
  · cases has
  · rcases moved.in_hand_or_led has with had | leads
    · exact fenced.placed covered was late had
    · exact fenced.led_act acts covered leads
  · exact fenced.placed covered was late has

theorem Fenced.began_act (fenced : Fenced start model done m) (reached : start.run done = m)
    (acts : Acts m a next) (after : start.run (done ++ [a]) = next) (covered : covers model r.key)
    (now : next.At call r (.computing place)) (fresh : Fresh start.store.cells.length place) :
    start.Began (done ++ [a]) call r := by
  rcases acts.call_before now with ⟨was,_⟩ | ⟨_,_,same⟩ | ⟨before,was,rfl,moved⟩ | ⟨_,_,_,_,same,_⟩
  · exact (fenced.began covered was fresh).further a
  · cases same
  · have new (resting : ∀ other, before ≠ .computing other) :
        start.Began (done ++ [.step call]) call r := by
      refine ⟨done,[],place,rfl,fun other computing => ?_,by rw [after]; exact now⟩
      rw [reached] at computing
      cases was.symm.trans computing
      exact resting other rfl
    generalize next.store = store at moved
    cases moved with
    | clash => exact new nofun
    | permit => exact new nofun
    | granted => exact new nofun
    | compute => exact (fenced.began covered was fresh).further _
  · cases same

theorem Fenced.ended_act (fenced : Fenced start model done m) (reached : start.run done = m)
    (acts : Acts m a next) (covered : covers model r.key)
    (now : next.At call r (.ended place (.ok v))) (fresh : Fresh start.store.cells.length place) :
    start.Produced (done ++ [a]) r v := by
  rcases acts.call_before now with ⟨was,_⟩ | ⟨_,_,same⟩ | ⟨before,_,_,moved⟩ | ⟨own,_,was,rfl,same,_⟩
  · exact (fenced.ended covered was fresh).further a
  · cases same
  · generalize next.store = store at moved
    cases moved
  · cases same
    exact ⟨call,done,[],place,rfl,fenced.began covered was fresh,by rw [reached]; exact was⟩

theorem Fenced.filled_act (fenced : Fenced start model done m) (sound : m.Sound)
    (acts : Acts m a next) (covered : covers model key) (now : next.Leads key slot)
    (fresh : start.store.cells.length ≤ slot) (inside : next.store.entry? slot = some entry) :
    start.Produced (done ++ [a]) ⟨key,entry.kind⟩ entry.value := by
  rcases acts.leads_before_or_made now with led | ⟨rfl,grown,call,r,phase,acted,found,own⟩
  · have before : m.store.entry? slot = some entry →
        start.Produced (done ++ [a]) ⟨key,entry.kind⟩ entry.value :=
      fun inside => (fenced.filled covered led fresh inside).further a
    rcases acts.touches_cell (sound.wired.made led) with same | ⟨call,r,phase,_,found,touches⟩
    · rw [Store.entry?,same] at inside
      exact before inside
    · unfold Store.entry? at before inside
      generalize m.store.cell slot = old at touches before
      generalize next.store.cell slot = new at touches inside
      cases touches with
      | fill =>
        cases inside
        cases sound.wired.single led (.inr ⟨call,r,_,found,rfl,rfl⟩)
        have place : Fresh start.store.cells.length (some slot) := fun own same => by
          cases same
          exact fresh
        exact (fenced.ended covered found place).further a
      | hold | await | passOn | not => exact before inside
  · cases acts with
    | step was moved =>
      cases acted
      cases was.symm.trans found
      rcases moved.made_cell grown with empty | ⟨v,rfl,filled⟩
      · rw [Store.entry?,empty] at inside
        cases inside
      · rw [Store.entry?,filled] at inside
        cases inside
        cases own
        exact (fenced.ended covered found (fresh_none _)).further _
    | noCall => exact absurd grown (Nat.lt_irrefl _)
    | _ => cases acted

theorem Fenced.answered_act (fenced : Fenced start model done m) (acts : Acts m a next)
    (covered : covers model r.key) (now : next.At call r (.done computed (.ok v)))
    (late : start.calls.length ≤ call) : start.Produced (done ++ [a]) r v := by
  rcases acts.call_before now with ⟨was,_⟩ | ⟨_,_,same⟩ | ⟨before,was,_,moved⟩ | ⟨_,_,_,_,same,_⟩
  · exact (fenced.answered covered was late).further a
  · cases same
  · have found {slot : Nat} {entry : Entry κ α} (has : before.slot? = some slot)
        (filled : m.store.entry? slot = some entry) (same : entry.kind = r.kind) :
        start.Produced (done ++ [a]) r entry.value := by
      have produced := fenced.filled covered (.inr ⟨call,r,before,was,rfl,has⟩)
        (fenced.placed covered was late has) filled
      rw [same] at produced
      exact produced.further a
    generalize next.store = store at moved
    cases moved with
    | hit filled same => exact found rfl filled same
    | share asked filled same => exact found (Phase.asking_slot asked) filled same
    | fill =>
      have place : Fresh start.store.cells.length (some _) := fun slot same =>
        fenced.placed covered was late same
      exact (fenced.ended covered was place).further a
    | replace => exact (fenced.ended covered was (fresh_none _)).further a
    | rest => exact (fenced.answered covered was late).further a
  · cases same

theorem Fenced.act (fenced : Fenced start model done m) (reached : start.run done = m)
    (sound : m.Sound) (acts : Acts m a next) (after : start.run (done ++ [a]) = next) :
    Fenced start model (done ++ [a]) next where
  grown := Nat.le_trans fenced.grown acts.cells_grow
  led := fenced.led_act acts
  placed := fenced.placed_act acts
  began := fenced.began_act reached acts after
  ended := fenced.ended_act reached acts
  filled := fenced.filled_act sound acts
  answered := fenced.answered_act acts

theorem Fenced.run (sound : m.Sound) (reached : start.run done = m)
    (fenced : Fenced start model done m) (later : List (Action κ α)) :
    Fenced start model (done ++ later) (start.run (done ++ later)) := by
  induction later generalizing done m with
  | nil =>
    subst reached
    rwa [List.append_nil]
  | cons a later ih =>
    have acts := m.acts_act a
    have after : start.run (done ++ [a]) = m.act a := by
      rw [run_append,reached]
      rfl
    have all := ih (sound.act acts) after (fenced.act reached sound acts after)
    rwa [List.append_assoc] at all

-- Calls that an invalidation cannot fence off: they replace a result, and have begun to.
def Replacing (m : Machine κ α) (model : Option String) : Prop :=
  ∃ call r, covers model r.key ∧
    (m.At call r (.computing none) ∨ ∃ v, m.At call r (.ended none (.ok v)))

theorem fenced_start (sound : m.Sound) (none : ¬m.Replacing model) :
    Fenced (m.invalidate model) model [] (m.invalidate model) := by
  have unled {key : Key} (covered : covers model key) :
      (m.invalidate model).store.slot? key = Option.none := by
    rw [invalidate,Store.slot?_invalidate,if_pos covered]
  have cells : (m.invalidate model).store.cells = m.store.cells := rfl
  have made {call slot : Nat} {r : Request κ} {phase : Phase α}
      (found : (m.invalidate model).At call r phase) (has : phase.slot? = some slot) :
      slot < (m.invalidate model).store.cells.length :=
    sound.wired.made (.inr ⟨call,r,phase,found,rfl,has⟩)
  have inside {call : Nat} {r : Request κ} {phase : Phase α}
      (found : (m.invalidate model).At call r phase) :
      call < (m.invalidate model).calls.length := (List.getElem?_eq_some_iff.mp found).1
  refine ⟨Nat.le_refl _,?_,?_,?_,?_,?_,?_⟩
  · intro key slot covered leads
    rw [unled covered] at leads
    cases leads
  · intro _ _ _ _ _ found late _
    have early := inside found
    omega
  · intro call r place covered found fresh
    cases place with
    | none => exact absurd ⟨call,r,covered,.inl found⟩ none
    | some slot =>
      have below := made found rfl
      have above := fresh slot rfl
      omega
  · intro call r place v covered found fresh
    cases place with
    | none => exact absurd ⟨call,r,covered,.inr ⟨v,found⟩⟩ none
    | some slot =>
      have below := made found rfl
      have above := fresh slot rfl
      omega
  · rintro key slot entry covered (leads | ⟨call,r,phase,found,_,has⟩) fresh _
    · rw [unled covered] at leads
      cases leads
    · have below := made found has
      omega
  · intro _ _ _ _ _ found late
    have early := inside found
    omega

-- A call that begins after a replacement is served with what was put in.
theorem served_after_replace (ended : m.At call r (.ended none (.ok v))) :
    (m.run [.step call,.start r,.step m.calls.length,.step m.calls.length]).At m.calls.length r
      (.done false (.ok v)) := by
  have stored : (m.step call).store = m.store.replace r.key ⟨r.kind,v⟩ := by
    rw [step_eq ended]
    rfl
  have many : (m.step call).calls.length = m.calls.length := by
    rw [step_eq ended]
    exact List.length_set
  have kept : ((m.step call).start r).Keeps r.key m.store.cells.length ⟨r.kind,v⟩ := by
    constructor
    · change (m.step call).store.slot? r.key = _
      rw [stored,Store.replace,Store.slot?_newSlot,if_pos rfl]
    · change ((m.step call).store.cell _).entry = _
      rw [stored,Store.replace,Store.cell_newSlot_self]
  have begun := (m.step call).start_at r
  rw [many] at begun
  exact starting_steps kept begun

theorem Produced.finishes (produced : start.Produced done r v) :
    ∃ call outcome, Action.finish call outcome ∈ done := by
  obtain ⟨call,before,after,place,rfl,_⟩ := produced
  exact ⟨call,.ok v,by simp⟩

theorem stale_of_replacing [Inhabited α] (replacing : m.Replacing model) : ∃ later r v,
    covers model r.key ∧
      ((m.invalidate model).run later).At m.calls.length r (.done false (.ok v)) ∧
        ¬(m.invalidate model).Produced later r v := by
  obtain ⟨call,r,covered,computing | ⟨v,ended⟩⟩ := replacing
  · have ended : ((m.invalidate model).finish call (.ok default)).At call r
        (.ended none (.ok default)) := by
      rw [finish_at (m := m.invalidate model) computing]
      exact List.getElem?_set_self (List.getElem?_eq_some_iff.mp computing).1
    have many : ((m.invalidate model).finish call (.ok default)).calls.length = m.calls.length := by
      rw [finish_at (m := m.invalidate model) computing]
      exact List.length_set
    have served := served_after_replace ended
    rw [many] at served
    refine ⟨[.finish call (.ok default),.step call,.start r,.step m.calls.length,
      .step m.calls.length],r,default,covered,served,?_⟩
    rintro ⟨other,before,after,place,split,began,_⟩
    cases before with
    | nil =>
      obtain ⟨earlier,rest,_,none,_⟩ := began
      simp at none
    | cons first before =>
      rw [List.cons_append] at split
      have tail := (List.cons.inj split).2
      have inside : Action.finish other (.ok default) ∈ before ++ .finish other (.ok default) ::
        after := by simp
      rw [← tail] at inside
      simp at inside
  · refine ⟨_,r,v,covered,served_after_replace (m := m.invalidate model) ended,fun produced => ?_⟩
    obtain ⟨other,outcome,inside⟩ := produced.finishes
    simp at inside

-- Every call that begins after an invalidation gets results of computations that began after it
-- too, exactly if no covered call was replacing a result of another kind when it came.
theorem fenced_iff [Inhabited α] {earlier : List (Action κ α)}
    (reached : (ofStore Store.empty).run earlier = m) (model : Option String) :
    (∀ later call r computed v, m.calls.length ≤ call → covers model r.key →
      ((m.invalidate model).run later).At call r (.done computed (.ok v)) →
        (m.invalidate model).Produced later r v) ↔ ¬m.Replacing model := by
  constructor
  · intro fenced replacing
    obtain ⟨later,r,v,covered,served,stale⟩ := stale_of_replacing replacing
    exact stale (fenced later _ r false v (Nat.le_refl _) covered served)
  · intro none later call r computed v late covered answered
    have sound := reached_sound earlier
    rw [reached] at sound
    have after := sound.act (m.acts_act (.invalidate model))
    have fenced := (fenced_start sound none).run after rfl later
    exact fenced.answered covered answered late

-- A result of one kind is there, and one of another kind under way, when all is invalidated.
theorem not_always_fenced : ¬∀ (earlier later : List (Action Nat Nat)) (model : Option String)
    call r computed v, ((ofStore Store.empty).run earlier).calls.length ≤ call →
      covers model r.key →
        ((((ofStore Store.empty).run earlier).invalidate model).run later).At call r
          (.done computed (.ok v)) →
            (((ofStore Store.empty).run earlier).invalidate model).Produced later r v := by
  intro fenced
  have replacing : ((ofStore (Store.empty : Store Nat Nat)).run [.start ⟨⟨"U","q",[]⟩,0⟩,.step 0,
      .step 0,.step 0,.finish 0 (.ok 1),.step 0,.start ⟨⟨"U","q",[]⟩,1⟩,.step 1,
      .step 1]).Replacing none := ⟨1,⟨⟨"U","q",[]⟩,1⟩,rfl,.inl rfl⟩
  obtain ⟨later,r,v,covered,served,stale⟩ := stale_of_replacing replacing
  exact stale (fenced _ later none _ r false v (Nat.le_refl _) covered served)

end Running

end Machine

end DataAccess.Cache
