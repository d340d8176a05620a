import DataAccess.Proofs.Cache.Moves

-- What holds of the slots in every state that calls can bring a store to: a slot belongs to one
-- key, and only the call that has the permit for a slot may fill it.
namespace DataAccess.Cache

namespace Machine

abbrev At (m : Machine κ α) (call : Nat) (r : Request κ) (phase : Phase α) : Prop :=
  m.calls[call]? = some ⟨r,phase⟩

-- One constructor for each thing that an action may do.
inductive Acts (m : Machine κ α) : Action κ α → Machine κ α → Prop where
  | start (r : Request κ) : Acts m (.start r) ⟨m.store,m.calls ++ [⟨r,.starting⟩]⟩
  | step (found : m.At call r phase) (moved : Move m.store call r phase after next) :
      Acts m (.step call) ⟨after,m.calls.set call ⟨r,next⟩⟩
  | finish (found : m.At call r (.computing slot)) :
      Acts m (.finish call outcome) ⟨m.store,m.calls.set call ⟨r,.ended slot outcome⟩⟩
  | invalidate : Acts m (.invalidate model) ⟨(m.store.invalidate model).1,m.calls⟩
  | noCall (absent : m.calls[call]? = none) : Acts m (.step call) m
  | noComputation (other : ∀ r slot, ¬m.At call r (.computing slot)) :
      Acts m (.finish call outcome) m

theorem setPhase_eq {calls : List (Call κ α)} (found : calls[call]? = some ⟨r,phase⟩)
    (after : Store κ α) (next : Phase α) :
    setPhase ⟨after,calls⟩ call next = ⟨after,calls.set call ⟨r,next⟩⟩ := by
  have modified : calls.modify call (fun c => { c with phase := next }) =
      calls.set call ⟨r,next⟩ := by
    obtain ⟨made,own⟩ := List.getElem?_eq_some_iff.mp found
    apply List.ext_getElem?
    intro other
    by_cases same : call = other
    · subst same
      simp [made,own]
    · simp [same]
  rw [setPhase,modified]

theorem acts_act [DecidableEq κ] (m : Machine κ α) (a : Action κ α) : Acts m a (m.act a) := by
  cases a with
  | start r => exact .start r
  | step call =>
    simp only [act,step]
    cases found : m.calls[call]? with
    | none => exact .noCall found
    | some c =>
      obtain ⟨r,phase⟩ := c
      have moved := Move.of_advance m.store call r phase
      simp only [setPhase_eq found]
      exact .step found moved
  | finish call outcome =>
    simp only [act,finish]
    split
    · rename_i r slot found
      rw [setPhase_eq found m.store]
      exact .finish found
    · rename_i other
      exact .noComputation fun r slot found => other r slot found
  | invalidate model => exact .invalidate

theorem run_append [DecidableEq κ] (m : Machine κ α) (first second : List (Action κ α)) :
    m.run (first ++ second) = (m.run first).run second := List.foldl_append

-- What every action preserves that is allowed where it happens, a schedule of such actions does.
theorem run_preserves [DecidableEq κ] (P : Machine κ α → Prop)
    (Allowed : Machine κ α → Action κ α → Prop)
    (each : ∀ {m a next}, Acts m a next → Allowed m a → P m → P next) {m : Machine κ α}
    {actions : List (Action κ α)} (initial : P m)
    (allowed : ∀ before a after, actions = before ++ a :: after → Allowed (m.run before) a) :
    P (m.run actions) := by
  induction actions generalizing m with
  | nil => exact initial
  | cons a actions ih =>
    have first := each (m.acts_act a) (allowed [] a actions rfl) initial
    refine ih first fun before b after split => ?_
    exact allowed (a :: before) b after (by rw [split,List.cons_append])

theorem at_push {m : Machine κ α}
    (now : At ⟨m.store,m.calls ++ [⟨own,.starting⟩]⟩ other r phase) :
    m.At other r phase ∨ other = m.calls.length ∧ own = r ∧ phase = .starting := by
  unfold At at now ⊢
  rw [List.getElem?_append] at now
  split at now
  · exact .inl now
  · obtain ⟨inside,new⟩ := List.getElem?_eq_some_iff.mp now
    rw [List.getElem_singleton] at new
    rw [List.length_singleton] at inside
    cases new
    exact .inr ⟨by omega,rfl,rfl⟩

theorem at_set {m : Machine κ α} (found : m.At call own before)
    (now : At ⟨after,m.calls.set call ⟨own,next⟩⟩ other r phase) :
    (call = other ∧ own = r ∧ next = phase) ∨ call ≠ other ∧ m.At other r phase := by
  unfold At at now ⊢
  by_cases same : call = other
  · subst same
    rw [List.getElem?_set_self (List.getElem?_eq_some_iff.mp found).1] at now
    cases now
    exact .inl ⟨rfl,rfl,rfl⟩
  · rw [List.getElem?_set_ne same] at now
    exact .inr ⟨same,now⟩

-- A call after an action: as before, or new, or the one that the action is about.
theorem Acts.call_before {m next : Machine κ α} (acts : Acts m a next)
    (now : next.At other r phase) :
    (m.At other r phase ∧ a ≠ .step other) ∨
    (a = .start r ∧ other = m.calls.length ∧ phase = .starting) ∨
    (∃ before, m.At other r before ∧ a = .step other ∧
      Move m.store other r before next.store phase) ∨
    ∃ slot outcome, m.At other r (.computing slot) ∧ a = .finish other outcome ∧
      phase = .ended slot outcome ∧ next.store = m.store := by
  cases acts with
  | start own =>
    rcases at_push now with before | ⟨new,rfl,rfl⟩
    · exact .inl ⟨before,nofun⟩
    · exact .inr (.inl ⟨rfl,new,rfl⟩)
  | step found moved =>
    rcases at_set found now with ⟨rfl,rfl,rfl⟩ | ⟨apart,before⟩
    · exact .inr (.inr (.inl ⟨_,found,rfl,moved⟩))
    · exact .inl ⟨before,fun acted => apart (Action.step.inj acted)⟩
  | finish found =>
    rcases at_set found now with ⟨rfl,rfl,rfl⟩ | ⟨_,before⟩
    · exact .inr (.inr (.inr ⟨_,_,found,rfl,rfl,rfl⟩))
    · exact .inl ⟨before,nofun⟩
  | invalidate => exact .inl ⟨now,nofun⟩
  | @noCall call absent =>
    refine .inl ⟨now,fun acted => ?_⟩
    cases acted
    cases absent.symm.trans now
  | noComputation => exact .inl ⟨now,nofun⟩

-- A key leads to a slot, or a call for the key has the slot in hand.
def Leads (m : Machine κ α) (key : Key) (slot : Nat) : Prop :=
  m.store.slot? key = some slot ∨ ∃ call r phase,
    m.At call r phase ∧ r.key = key ∧ phase.slot? = some slot

-- Slots are led to only once they are made, and by one key each.
structure Wired (m : Machine κ α) : Prop where
  made : m.Leads key slot → slot < m.store.cells.length
  single : m.Leads key slot → m.Leads other slot → key = other

-- A slot that is being filled is empty, and the call that fills it has the permit.
def Exclusive (m : Machine κ α) : Prop := ∀ call r phase slot,
  m.At call r phase → phase.filling? = some slot →
    m.store.entry? slot = none ∧ (m.store.cell slot).holder = some call

theorem Acts.cells_grow {m next : Machine κ α} (acts : Acts m a next) :
    m.store.cells.length ≤ next.store.cells.length := by
  cases acts with
  | step found moved => exact moved.cells_grow
  | _ => exact Nat.le_refl _

-- The slot that a key is led to was led to before, or the step that led to it made it.
theorem Acts.slot?_before_or_made {m next : Machine κ α} (acts : Acts m a next)
    (now : next.store.slot? key = some slot) : m.store.slot? key = some slot ∨
      slot = m.store.cells.length ∧ slot < next.store.cells.length ∧ ∃ call r phase,
        a = .step call ∧ m.At call r phase ∧ r.key = key := by
  cases acts with
  | @step call r phase after next found moved =>
    rcases moved.slot?_before_or_made now with before | ⟨rfl,rfl,grown⟩
    · exact .inl before
    · exact .inr ⟨rfl,grown,call,r,phase,rfl,found,rfl⟩
  | @invalidate model =>
    rw [Store.slot?_invalidate] at now
    split at now
    · cases now
    · exact .inl now
  | _ => exact .inl now

-- Who leads to a slot after an action did before it, or took the slot that the action made.
theorem Acts.leads_before_or_made {m next : Machine κ α} (acts : Acts m a next) (now : next.Leads key slot) :
    m.Leads key slot ∨ slot = m.store.cells.length ∧ slot < next.store.cells.length ∧
      ∃ call r phase,
        a = .step call ∧ m.At call r phase ∧ r.key = key := by
  rcases now with place | ⟨call,r,phase,found,rfl,has⟩
  · rcases acts.slot?_before_or_made place with before | made
    · exact .inl (.inl before)
    · exact .inr made
  · rcases acts.call_before found with
      ⟨before,_⟩ | ⟨_,_,rfl⟩ | ⟨before,was,rfl,moved⟩ | ⟨own,outcome,was,_,rfl,_⟩
    · exact .inl (.inr ⟨call,r,phase,before,rfl,has⟩)
    · cases has
    · rcases moved.in_hand_or_led has with had | place
      · exact .inl (.inr ⟨call,r,before,was,rfl,had⟩)
      · rcases acts.slot?_before_or_made place with before | made
        · exact .inl (.inl before)
        · exact .inr made
    · exact .inl (.inr ⟨call,r,.computing own,was,rfl,has⟩)

theorem Wired.act {m next : Machine κ α} (acts : Acts m a next) (wired : m.Wired) : next.Wired := by
  refine ⟨?_,?_⟩
  · intro key slot now
    rcases acts.leads_before_or_made now with before | ⟨_,made,_⟩
    · exact Nat.lt_of_lt_of_le (wired.made before) acts.cells_grow
    · exact made
  · intro key slot other now also
    rcases acts.leads_before_or_made now with before | ⟨new,_,call,r,phase,acted,found,rfl⟩
    · rcases acts.leads_before_or_made also with too | ⟨new,_,_⟩
      · exact wired.single before too
      · have made := wired.made before
        omega
    · rcases acts.leads_before_or_made also with too | ⟨_,_,same,r',phase',acted',found',rfl⟩
      · have made := wired.made too
        omega
      · cases acted.symm.trans acted'
        cases found.symm.trans found'
        rfl

theorem Acts.touches_cell {m next : Machine κ α} (acts : Acts m a next)
    (made : slot < m.store.cells.length) : next.store.cell slot = m.store.cell slot ∨
      ∃ call r phase, a = .step call ∧
        m.At call r phase ∧
          Move.Touches call r slot (m.store.cell slot) phase (next.store.cell slot) := by
  cases acts with
  | @step call r phase after next found moved =>
    exact .inr ⟨call,r,phase,rfl,found,moved.touches_cell made⟩
  | _ => exact .inl rfl

theorem Exclusive.act {m next : Machine κ α} (acts : Acts m a next) (wired : m.Wired)
    (exclusive : m.Exclusive) : next.Exclusive := by
  intro call r phase slot now fills
  rcases acts.call_before now with ⟨was,apart⟩ | ⟨_,_,rfl⟩ | ⟨before,was,_,moved⟩ | ⟨own,_,was,_,rfl,same⟩
  · obtain ⟨empty,mine⟩ := exclusive call r phase slot was fills
    have made := wired.made (.inr ⟨call,r,phase,was,rfl,Phase.filling_slot fills⟩)
    rcases acts.touches_cell made with same | ⟨other,r',phase',rfl,found,touches⟩
    · exact ⟨by rw [Store.entry?,same]; exact empty,by rw [same]; exact mine⟩
    · have others : ∀ outcome, phase' = .ended (some slot) outcome → False := by
        rintro outcome rfl
        have theirs := (exclusive other r' _ slot found rfl).2
        cases mine.symm.trans theirs
        exact apart rfl
      unfold Store.entry? at empty ⊢
      generalize m.store.cell slot = old at touches empty mine
      generalize next.store.cell slot = new at touches ⊢
      cases touches with
      | not => exact ⟨empty,mine⟩
      | hold _ free => cases mine.symm.trans free
      | await => exact ⟨empty,mine⟩
      | fill => exact (others _ rfl).elim
      | passOn => exact (others _ rfl).elim
  · cases fills
  · generalize next.store = after at moved ⊢
    cases moved with
    | @permit own empty free =>
      cases fills
      have made := wired.made (.inr ⟨call,r,_,was,rfl,rfl⟩)
      rw [Store.entry?,Store.hold,Store.cell_setCell_self _ made]
      exact ⟨empty,rfl⟩
    | granted empty mine =>
      cases fills
      exact ⟨empty,mine⟩
    | compute => exact exclusive call r _ slot was fills
    | _ => cases fills
  · rw [same]
    exact exclusive call r _ slot was fills

structure Sound (m : Machine κ α) : Prop where
  wired : m.Wired
  exclusive : m.Exclusive

theorem Sound.act {m next : Machine κ α} (acts : Acts m a next) (sound : m.Sound) : next.Sound :=
  ⟨sound.wired.act acts,sound.exclusive.act acts sound.wired⟩

theorem empty_sound : (ofStore (Store.empty : Store κ α)).Sound := by
  have unled (key : Key) (slot : Nat) : ¬(ofStore (Store.empty : Store κ α)).Leads key slot := by
    rintro (place | ⟨call,r,phase,found,_⟩)
    · cases place
    · cases found
  refine ⟨⟨fun led => absurd led (unled _ _),fun led => absurd led (unled _ _)⟩,?_⟩
  intro call r phase slot found
  cases found

theorem reached_sound [DecidableEq κ] (actions : List (Action κ α)) :
    ((ofStore Store.empty).run actions).Sound :=
  run_preserves Sound (fun _ _ => True) (fun acts _ sound => sound.act acts) empty_sound
    fun _ _ _ _ => trivial

end Machine

end DataAccess.Cache
