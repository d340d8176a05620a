import DataAccess.Proofs.Cache.Answers

-- Whether a result that was computed is there afterwards. When all calls for a key ask for one kind
-- of results and nothing is invalidated, what a key leads to stays there. But a slot that a failing
-- call gave up is filled for its own waiters only.
namespace DataAccess.Cache

namespace Machine

-- Actions with which all calls for a key ask for one kind and nothing is invalidated.
def Steady (key : Key) (kind : κ) : Action κ α → Prop
  | .start r => r.key = key → r.kind = kind
  | .invalidate _ => False
  | .step _ | .finish _ _ => True

-- What follows from that: all results of the key are of the kind, and none is to be replaced.
structure Uniform (m : Machine κ α) (key : Key) (kind : κ) : Prop where
  asked : m.At call r phase → r.key = key → r.kind = kind
  kept : m.Leads key slot → m.store.entry? slot = some entry → entry.kind = kind
  placed : m.At call r phase → r.key = key → phase.replaces = false

theorem Uniform.asked_act {m next : Machine κ α} (acts : Acts m a next) (steady : Steady key kind a)
    (uniform : m.Uniform key kind) (now : next.At call r phase) (own : r.key = key) :
    r.kind = kind := by
  rcases acts.call_before now with ⟨was,_⟩ | ⟨rfl,_,_⟩ | ⟨before,was,_,_⟩ | ⟨_,_,was,_,_,_⟩
  · exact uniform.asked was own
  · exact steady own
  · exact uniform.asked was own
  · exact uniform.asked was own

theorem Uniform.kept_act {m next : Machine κ α} (acts : Acts m a next) (wired : m.Wired)
    (uniform : m.Uniform key kind) (now : next.Leads key slot)
    (filled : next.store.entry? slot = some entry) : entry.kind = kind := by
  rcases acts.leads_before_or_made now with led | ⟨rfl,grown,call,r,phase,acted,found,own⟩
  · rcases acts.touches_cell (wired.made led) with same | ⟨call,r,phase,_,found,touches⟩
    · rw [Store.entry?,same] at filled
      exact uniform.kept led filled
    · have before : m.store.entry? slot = some entry → entry.kind = kind := uniform.kept led
      unfold Store.entry? at before filled
      generalize m.store.cell slot = old at touches before
      generalize next.store.cell slot = new at touches filled
      cases touches with
      | fill =>
        cases filled
        have mine := wired.single led (.inr ⟨call,r,_,found,rfl,rfl⟩)
        exact uniform.asked found mine.symm
      | hold | await | passOn | not => exact before filled
  · cases acts with
    | step was moved =>
      cases acted
      cases was.symm.trans found
      rcases moved.made_cell grown with empty | ⟨v,rfl,_⟩
      · rw [Store.entry?,empty] at filled
        cases filled
      · cases uniform.placed found own
    | noCall => exact absurd grown (Nat.lt_irrefl _)
    | _ => cases acted

theorem Uniform.placed_act {m next : Machine κ α} (acts : Acts m a next)
    (uniform : m.Uniform key kind) (now : next.At call r phase) (own : r.key = key) :
    phase.replaces = false := by
  rcases acts.call_before now with ⟨was,_⟩ | ⟨_,_,rfl⟩ | ⟨before,was,_,moved⟩ | ⟨slot,outcome,was,_,rfl,_⟩
  · exact uniform.placed was own
  · rfl
  · have earlier := uniform.placed was own
    generalize next.store = after at moved
    cases moved with
    | @clash slot entry filled other =>
      have same := uniform.kept (.inr ⟨call,r,_,was,own,rfl⟩) filled
      exact absurd (same.trans (uniform.asked was own).symm) other
    | compute => exact earlier
    | _ => rfl
  · cases slot with
    | none => cases uniform.placed was own
    | some slot => rfl

theorem Uniform.act {m next : Machine κ α} (acts : Acts m a next) (steady : Steady key kind a)
    (wired : m.Wired) (uniform : m.Uniform key kind) : next.Uniform key kind :=
  ⟨uniform.asked_act acts steady,uniform.kept_act acts wired,uniform.placed_act acts⟩

theorem empty_uniform (key : Key) (kind : κ) :
    (ofStore (Store.empty : Store κ α)).Uniform key kind := by
  have idle (call : Nat) (r : Request κ) (phase : Phase α) :
      ¬(ofStore Store.empty).At call r phase := by
    intro found
    cases found
  refine ⟨fun found => absurd found (idle _ _ _),?_,fun found => absurd found (idle _ _ _)⟩
  rintro slot entry (place | ⟨call,r,phase,found,_⟩)
  · cases place
  · cases found

-- With such actions a key stays where it leads unless a failing call gives the slot up empty.
theorem Acts.slot?_kept_or_given_up {m next : Machine κ α} (acts : Acts m a next) (steady : Steady key kind a)
    (uniform : m.Uniform key kind) (leads : m.store.slot? key = some slot) :
    next.store.slot? key = some slot ∨ m.store.entry? slot = none ∧ next.store.slot? key = none ∧
      ∃ call r e, a = .step call ∧ m.At call r (.failing slot e) ∧ r.key = key := by
  cases acts with
  | @step call r phase after next found moved =>
    rcases moved.slot?_kept_or_renewed leads with stays | ⟨own,⟨v,rfl⟩ | ⟨e,rfl,empty,gone⟩⟩
    · exact .inl stays
    · cases uniform.placed found own
    · exact .inr ⟨empty,gone,call,r,e,rfl,found,own⟩
  | invalidate => exact steady.elim
  | _ => exact .inl leads

-- What is in a slot stays there.
theorem Acts.entry?_kept {m next : Machine κ α} (acts : Acts m a next) (sound : m.Sound)
    (made : slot < m.store.cells.length) (filled : m.store.entry? slot = some entry) :
    next.store.entry? slot = some entry := by
  rcases acts.touches_cell made with same | ⟨call,r,phase,_,found,touches⟩
  · rw [Store.entry?,same]
    exact filled
  · have own : ∀ outcome, phase ≠ .ended (some slot) outcome := by
      rintro outcome rfl
      have empty := (sound.exclusive call r _ slot found rfl).1
      cases empty.symm.trans filled
    unfold Store.entry? at filled ⊢
    generalize m.store.cell slot = old at touches filled
    generalize next.store.cell slot = new at touches ⊢
    cases touches with
    | fill => exact absurd rfl (own _)
    | hold | await | passOn | not => exact filled

theorem Keeps.act {m next : Machine κ α} (acts : Acts m a next) (steady : Steady key kind a)
    (sound : m.Sound) (uniform : m.Uniform key kind) (kept : m.Keeps key slot entry) :
    next.Keeps key slot entry := by
  obtain ⟨leads,filled⟩ := kept
  rcases acts.slot?_kept_or_given_up steady uniform leads with stays | ⟨empty,_⟩
  · exact ⟨stays,acts.entry?_kept sound (sound.wired.made (.inl leads)) filled⟩
  · cases empty.symm.trans filled

-- Calls that begin when a result is kept get no further than to find it.
def Served (m : Machine κ α) (key : Key) (slot : Nat) (v : α) (begun : Nat) : Prop :=
  ∀ call r phase, begun ≤ call → m.At call r phase → r.key = key →
    phase = .starting ∨ phase = .found slot ∨ phase = .done false (.ok v)

theorem Served.act {m next : Machine κ α} (acts : Acts m a next) (uniform : m.Uniform key kind)
    (kept : m.Keeps key slot ⟨kind,v⟩) (served : m.Served key slot v begun) :
    next.Served key slot v begun := by
  obtain ⟨leads,filled⟩ := kept
  intro call r phase late now own
  rcases acts.call_before now with ⟨was,_⟩ | ⟨_,_,rfl⟩ | ⟨before,was,_,moved⟩ | ⟨_,_,was,_,_,_⟩
  · exact served call r phase late was own
  · exact .inl rfl
  · have asked := uniform.asked was own
    generalize next.store = after at moved
    rcases served call r before late was own with rfl | rfl | rfl
    · cases moved with
      | reuse place =>
        rw [own] at place
        cases place.symm.trans leads
        exact .inr (.inl rfl)
      | make unknown =>
        rw [own] at unknown
        cases unknown.symm.trans leads
      | share asked | refuse asked => cases asked
    · cases moved with
      | miss empty => cases empty.symm.trans filled
      | hit found same =>
        cases found.symm.trans filled
        exact .inr (.inr rfl)
      | clash found other =>
        cases found.symm.trans filled
        exact absurd asked.symm other
      | share asked | refuse asked => cases asked
    · cases moved with
      | rest => exact .inr (.inr rfl)
      | share asked | refuse asked => cases asked
  · rcases served call r _ late was own with bad | bad | bad <;> cases bad

section Running

variable [DecidableEq κ] {m : Machine κ α} {r : Request κ}

-- Whatever happens later, each call for the key that began since has this value as its answer
-- after two more steps of its own, and does not compute it.
def Serves (m : Machine κ α) (key : Key) (kind : κ) (v : α) : Prop :=
  ∀ later, (∀ a ∈ later, Steady key kind a) → ∀ call r phase, m.calls.length ≤ call →
    (m.run later).At call r phase → r.key = key →
      (((m.run later).step call).step call).result? call = some (false,.ok v)

theorem serves_of_kept (sound : m.Sound) (uniform : m.Uniform key kind)
    (kept : m.Keeps key slot ⟨kind,v⟩) : m.Serves key kind v := by
  intro later steady call r phase late now own
  have served : m.Served key slot v m.calls.length := by
    intro call r phase late now
    have inside := (List.getElem?_eq_some_iff.mp now).1
    omega
  have allowed : ∀ before a after, later = before ++ a :: after → Steady key kind a := by
    intro before a after split
    exact steady a (by simp [split])
  obtain ⟨_,uniform,kept,served⟩ := run_preserves
    (fun m' : Machine κ α => m'.Sound ∧ m'.Uniform key kind ∧ m'.Keeps key slot ⟨kind,v⟩ ∧
      m'.Served key slot v m.calls.length)
    (fun _ a => Steady key kind a)
    (fun acts steady ⟨sound,uniform,kept,served⟩ => ⟨sound.act acts,
      uniform.act acts steady sound.wired,kept.act acts steady sound uniform,
      served.act acts uniform kept⟩)
    ⟨sound,uniform,kept,served⟩ allowed
  have asked := uniform.asked now own
  subst own
  subst asked
  rcases served call r phase late now rfl with rfl | rfl | rfl
  · exact result_done (starting_steps kept now)
  · exact result_done (step_at (found_step kept.2 now))
  · exact result_done (step_at (step_at now))

-- A slot that its key does not lead to is not led to again.
theorem unled_stays (made : slot < m.store.cells.length) (unled : m.store.slot? key ≠ some slot)
    (actions : List (Action κ α)) : (m.run actions).store.slot? key ≠ some slot := by
  have each : ∀ {m : Machine κ α} {a next}, Acts m a next → True →
      slot < m.store.cells.length ∧ m.store.slot? key ≠ some slot →
        slot < next.store.cells.length ∧ next.store.slot? key ≠ some slot := by
    intro m a next acts _ ⟨made,unled⟩
    refine ⟨Nat.lt_of_lt_of_le made acts.cells_grow,fun leads => ?_⟩
    rcases acts.slot?_before_or_made leads with before | ⟨new,_⟩
    · exact unled before
    · omega
  exact (run_preserves (fun m => slot < m.store.cells.length ∧ m.store.slot? key ≠ some slot)
    (fun _ _ => True) each ⟨made,unled⟩ fun _ _ _ _ => trivial).2

theorem filled_stays (sound : m.Sound) (made : slot < m.store.cells.length)
    (filled : m.store.entry? slot = some entry) (actions : List (Action κ α)) :
    (m.run actions).store.entry? slot = some entry := by
  have each : ∀ {m : Machine κ α} {a next}, Acts m a next → True →
      m.Sound ∧ slot < m.store.cells.length ∧ m.store.entry? slot = some entry →
        next.Sound ∧ slot < next.store.cells.length ∧ next.store.entry? slot = some entry := by
    intro m a next acts _ ⟨sound,made,filled⟩
    exact ⟨sound.act acts,Nat.lt_of_lt_of_le made acts.cells_grow,acts.entry?_kept sound made filled⟩
  exact (run_preserves
    (fun m => m.Sound ∧ slot < m.store.cells.length ∧ m.store.entry? slot = some entry)
    (fun _ _ => True) each ⟨sound,made,filled⟩ fun _ _ _ _ => trivial).2.2

end Running

-- The next step is that of a failing call for the key, which gives the slot up.
def GivesUp (m : Machine κ α) (key : Key) (slot : Nat) (a : Action κ α) : Prop :=
  ∃ call r e, a = .step call ∧ m.At call r (.failing slot e) ∧ r.key = key

-- The calls for a key that have a slot in hand are led to it.
def Attached (m : Machine κ α) (key : Key) (slot : Nat) : Prop :=
  ∀ call r phase, m.At call r phase → r.key = key → phase.slot? = some slot →
    m.store.slot? key = some slot

theorem Attached.act {m next : Machine κ α} (acts : Acts m a next) (steady : Steady key kind a)
    (uniform : m.Uniform key kind) (holds : ¬m.GivesUp key slot a)
    (attached : m.Attached key slot) : next.Attached key slot := by
  have stay (leads : m.store.slot? key = some slot) : next.store.slot? key = some slot := by
    rcases acts.slot?_kept_or_given_up steady uniform leads with stays | ⟨_,_,gives⟩
    · exact stays
    · exact absurd gives holds
  intro call r phase now own has
  rcases acts.call_before now with ⟨was,_⟩ | ⟨_,_,rfl⟩ | ⟨before,was,_,moved⟩ | ⟨place,_,was,_,rfl,_⟩
  · exact stay (attached call r phase was own has)
  · cases has
  · rcases moved.in_hand_or_led has with had | leads
    · exact stay (attached call r before was own had)
    · exact own ▸ leads
  · exact stay (attached call r _ was own has)

section Running

variable [DecidableEq κ] {m : Machine κ α} {r : Request κ}

theorem steady_sound {earlier : List (Action κ α)} (steady : ∀ a ∈ earlier, Steady key kind a) :
    ((ofStore Store.empty).run earlier).Sound ∧
      ((ofStore Store.empty).run earlier).Uniform key kind := by
  have each : ∀ {m : Machine κ α} {a next}, Acts m a next → Steady key kind a →
      m.Sound ∧ m.Uniform key kind → next.Sound ∧ next.Uniform key kind := by
    intro m a next acts steady ⟨sound,uniform⟩
    exact ⟨sound.act acts,uniform.act acts steady sound.wired⟩
  exact run_preserves (fun m => m.Sound ∧ m.Uniform key kind) (fun _ a => Steady key kind a) each
    ⟨empty_sound,empty_uniform key kind⟩ fun before a after split => steady a (by simp [split])

-- Giving an empty slot up leaves its key without it.
theorem unled_of_givesUp (gives : m.GivesUp key slot a) (empty : m.store.entry? slot = none) :
    (m.act a).store.slot? key ≠ some slot := by
  obtain ⟨call,r,e,rfl,failing,rfl⟩ := gives
  rw [act,step_eq failing]
  change (m.store.countMiss.discardEmpty r.key slot).slot? r.key ≠ some slot
  rw [Store.slot?_discardEmpty]
  intro leads
  split at leads
  · cases leads
  · rename_i other
    exact other ⟨rfl,leads,empty⟩

-- A slot that is being filled is led to exactly when no failing call gave it up.
theorem attached_iff {earlier : List (Action κ α)} (steady : ∀ a ∈ earlier, Steady key kind a)
    (ended : ((ofStore Store.empty).run earlier).At call r (.ended (some slot) outcome))
    (own : r.key = key) : ((ofStore Store.empty).run earlier).store.slot? key = some slot ↔
      ∀ before a after, earlier = before ++ a :: after →
        ¬((ofStore Store.empty).run before).GivesUp key slot a := by
  constructor
  · rintro leads before a after rfl gives
    have empty := ((reached_sound (before ++ a :: after)).exclusive call r _ slot ended rfl).1
    have sound : ((ofStore (Store.empty : Store κ α)).run before).Sound := reached_sound before
    rw [run_append] at leads empty
    generalize (ofStore Store.empty).run before = m at gives sound leads empty
    obtain ⟨other,r',e,acted,failing,theirs⟩ := id gives
    have made := sound.wired.made (.inr ⟨other,r',_,failing,theirs,rfl⟩)
    have open_ : m.store.entry? slot = none := by
      cases filled : m.store.entry? slot with
      | none => rfl
      | some entry => cases (filled_stays sound made filled (a :: after)).symm.trans empty
    have unled := unled_of_givesUp gives open_
    have still := Nat.lt_of_lt_of_le made (m.acts_act a).cells_grow
    exact unled_stays still unled after leads
  · intro holds
    have each : ∀ {m : Machine κ α} {a next}, Acts m a next →
        Steady key kind a ∧ ¬m.GivesUp key slot a →
          m.Sound ∧ m.Uniform key kind ∧ m.Attached key slot →
            next.Sound ∧ next.Uniform key kind ∧ next.Attached key slot := by
      intro m a next acts ⟨steady,holds⟩ ⟨sound,uniform,attached⟩
      exact ⟨sound.act acts,uniform.act acts steady sound.wired,
        attached.act acts steady uniform holds⟩
    have initial : (ofStore (Store.empty : Store κ α)).Attached key slot := by
      intro call r phase found
      cases found
    have final := run_preserves (fun m => m.Sound ∧ m.Uniform key kind ∧ m.Attached key slot)
      (fun m a => Steady key kind a ∧ ¬m.GivesUp key slot a) each
      ⟨empty_sound,empty_uniform key kind,initial⟩
      fun before a after split => ⟨steady a (by simp [split]),holds before a after split⟩
    exact final.2.2 call r _ ended own rfl

-- After a call has filled its slot, exactly one that its key leads to is any good to later calls.
theorem kept_iff (sound : m.Sound) (uniform : m.Uniform key kind)
    (ended : m.At call r (.ended (some slot) (.ok v))) (own : r.key = key) :
    (m.step call).store.contains key = true ∧ (m.step call).Serves key kind v ↔
      m.store.slot? key = some slot ∨ m.store.find? key = some ⟨kind,v⟩ := by
  have acts : Acts m (.step call) (m.step call) := m.acts_act (.step call)
  have next : (m.step call).Sound := sound.act acts
  have alike : (m.step call).Uniform key kind := uniform.act acts trivial sound.wired
  have stored : (m.step call).store = (m.store.fill slot ⟨r.kind,v⟩).countMiss := by
    rw [step_eq ended]
    rfl
  have led : (m.step call).store.slot? key = m.store.slot? key := by
    rw [stored]
    rfl
  have made := sound.wired.made (.inr ⟨call,r,_,ended,own,rfl⟩)
  have filled : (m.step call).store.entry? slot = some ⟨kind,v⟩ := by
    rw [stored,← uniform.asked ended own]
    change ((m.store.fill slot ⟨r.kind,v⟩).cell slot).entry = some ⟨r.kind,v⟩
    rw [Store.fill,Store.cell_setCell_self _ made]
  constructor
  · rintro ⟨contains,serves⟩
    by_cases leads : m.store.slot? key = some slot
    · exact .inl leads
    · obtain ⟨⟨asked,value⟩,found⟩ := Option.isSome_iff_exists.mp contains
      obtain ⟨other,place,inside⟩ := find?_some.mp found
      have kinds : asked = kind := alike.kept (.inl place) inside
      rw [kinds] at inside
      have apart : other ≠ slot := by
        rintro rfl
        exact leads (led ▸ place)
      have before : m.store.entry? other = some ⟨kind,value⟩ := by
        rw [stored] at inside
        change ((m.store.fill slot ⟨r.kind,v⟩).cell other).entry = some ⟨kind,value⟩ at inside
        rwa [Store.fill,Store.cell_setCell_other _ apart] at inside
      -- A call that begins now is answered with what is there.
      have begun := (m.step call).start_at ⟨key,kind⟩
      have served := serves [.start ⟨key,kind⟩] (by simp [Steady]) _ _ _ (Nat.le_refl _) begun rfl
      have kept : ((m.step call).start ⟨key,kind⟩).Keeps key other ⟨kind,value⟩ := ⟨place,inside⟩
      have answered := result_done (starting_steps (r := ⟨key,kind⟩) kept begun)
      cases answered.symm.trans served
      exact .inr (find?_some.mpr ⟨other,led ▸ place,before⟩)
  · intro leads
    have kept : ∃ slot, (m.step call).Keeps key slot ⟨kind,v⟩ := by
      rcases leads with leads | found
      · exact ⟨slot,led.trans leads,filled⟩
      · obtain ⟨other,place,inside⟩ := find?_some.mp found
        exact ⟨other,Keeps.act acts trivial sound uniform ⟨place,inside⟩⟩
    obtain ⟨place,kept⟩ := kept
    have contains : (m.step call).store.contains key = true := by
      rw [Store.contains,find?_some.mpr ⟨place,kept⟩]
      rfl
    exact ⟨contains,serves_of_kept next alike kept⟩

-- A call whose own computation succeeded returns the result. It is then kept, and is what every
-- later call for the key is served with, exactly if the key still leads to the call's slot, or
-- was given the same result by another call meanwhile; the key leads to the slot unless a failing
-- call gave it up.
theorem computed_kept_iff {earlier : List (Action κ α)}
    (steady : ∀ a ∈ earlier, Steady key kind a) (own : r.key = key)
    (reached : (ofStore Store.empty).run earlier = m) (ended : m.At call r (.ended place (.ok v))) :
    (m.step call).result? call = some (true,.ok v) ∧ ∃ slot, place = some slot ∧
      ((m.step call).store.contains key = true ∧ (m.step call).Serves key kind v ↔
        m.store.slot? key = some slot ∨ m.store.find? key = some ⟨kind,v⟩) ∧
      (m.store.slot? key = some slot ↔ ∀ before a after, earlier = before ++ a :: after →
        ¬((ofStore Store.empty).run before).GivesUp key slot a) := by
  subst reached
  obtain ⟨sound,uniform⟩ := steady_sound steady
  cases place with
  | none => cases uniform.placed ended own
  | some slot =>
    have answer : (((ofStore Store.empty).run earlier).step call).result? call =
        some (true,.ok v) := by
      have done := step_at ended
      exact result_done done
    exact ⟨answer,slot,rfl,kept_iff sound uniform ended own,attached_iff steady ended own⟩

-- A call that is alone keeps its result.
theorem computed_kept_alone :
    (((ofStore (Store.empty : Store Nat Nat)).run [.start ⟨⟨"U","q",[]⟩,0⟩,.step 0,.step 0,.step 0,
      .finish 0 (.ok 2)]).step 0).store.contains ⟨"U","q",[]⟩ = true ∧
    (((ofStore (Store.empty : Store Nat Nat)).run [.start ⟨⟨"U","q",[]⟩,0⟩,.step 0,.step 0,.step 0,
      .finish 0 (.ok 2)]).step 0).Serves ⟨"U","q",[]⟩ 0 2 := by
  have steady : ∀ a ∈ ([.start ⟨⟨"U","q",[]⟩,0⟩,.step 0,.step 0,.step 0,
      .finish 0 (.ok 2)] : List (Action Nat Nat)), Steady ⟨"U","q",[]⟩ 0 a := by simp [Steady]
  have ended : ((ofStore (Store.empty : Store Nat Nat)).run [.start ⟨⟨"U","q",[]⟩,0⟩,.step 0,
      .step 0,.step 0,.finish 0 (.ok 2)]).At 0 ⟨⟨"U","q",[]⟩,0⟩ (.ended (some 0) (.ok 2)) := rfl
  obtain ⟨_,slot,same,exactly,_⟩ := computed_kept_iff steady rfl rfl ended
  cases same
  exact exactly.mpr (.inl rfl)

-- The second of two calls takes over when the computation of the first fails, and the first gives
-- the slot up before the second fills it.
theorem computed_not_kept : ¬∀ (earlier : List (Action Nat Nat)) (key : Key) (kind : Nat),
    (∀ a ∈ earlier, Steady key kind a) → ∀ call r place v, r.key = key →
      ((ofStore Store.empty).run earlier).At call r (.ended place (.ok v)) →
        (((ofStore Store.empty).run earlier).step call).store.contains key = true := by
  intro kept
  have lost := kept [.start ⟨⟨"U","q",[]⟩,0⟩,.start ⟨⟨"U","q",[]⟩,0⟩,.step 0,.step 0,.step 0,
    .step 1,.step 1,.step 1,.finish 0 (.error (.query "m" none)),.step 0,.step 0,.step 1,
    .finish 1 (.ok 2)] ⟨"U","q",[]⟩ 0 (by simp [Steady]) 1 ⟨⟨"U","q",[]⟩,0⟩ (some 0) 2 rfl rfl
  cases lost

end Running

end Machine

end DataAccess.Cache
