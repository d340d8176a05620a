import DataAccess.Cache.Schedule

-- What one step of a call can do, as a relation beside the function that takes the step, and what
-- one action can do to a machine. Every property of runs is proved by cases on these.
namespace DataAccess.Cache

-- Places for keys, of which each key has the first.
section Lookups

variable (places : List (Key × β))

theorem lookup_filter (keep : Key → Bool) (other : Key) :
    (places.filter fun place => keep place.1).lookup other =
      if keep other then places.lookup other else none := by
  induction places with
  | nil => simp
  | cons place places ih =>
    obtain ⟨own,slot⟩ := place
    by_cases here : other = own
    · subst here
      cases kept : keep other with
      | true => simp [kept]
      | false => simpa [kept] using ih
    · have differs : (other == own) = false := by simp [here]
      have passed : List.lookup other ((own,slot) :: places) = places.lookup other := by
        rw [List.lookup_cons,differs]
      rw [passed,← ih]
      cases kept : keep own with
      | true => simp [kept,List.lookup_cons,differs]
      | false => simp [kept]

theorem lookup_without (key other : Key) :
    (places.filter (·.1 ≠ key)).lookup other = if other = key then none else places.lookup other := by
  have filtered := lookup_filter places (· ≠ key) other
  by_cases same : other = key <;> simpa [same] using filtered

theorem lookup_renewed (key other : Key) (b : β) :
    (places.filter (·.1 ≠ key) ++ [(key,b)]).lookup other =
      if other = key then some b else places.lookup other := by
  rw [List.lookup_append,lookup_without]
  by_cases same : other = key
  · simp [same]
  · have differs : (other == key) = false := by simp [same]
    simp [same,List.lookup_cons,differs]

end Lookups

namespace Store

variable (s : Store κ α)

theorem slot?_newSlot (key other : Key) (cell : Cell κ α) : (s.newSlot key cell).slot? other =
    if other = key then some s.cells.length else s.slot? other :=
  lookup_renewed s.slots key other s.cells.length

theorem slot?_discardEmpty (key other : Key) (slot : Nat) : (s.discardEmpty key slot).slot? other =
    if other = key ∧ s.slot? key = some slot ∧ s.entry? slot = none then none
    else s.slot? other := by
  unfold discardEmpty
  by_cases taken : s.slot? key = some slot ∧ s.entry? slot = none
  · have empty : (s.entry? slot).isNone := by simp [taken.2]
    rw [if_pos ⟨taken.1,empty⟩]
    simp only [slot?,lookup_without] at taken ⊢
    simp [taken.1,taken.2]
  · rw [if_neg (by simpa using taken),if_neg fun all => taken all.2]

theorem cells_discardEmpty (key : Key) (slot : Nat) : (s.discardEmpty key slot).cells = s.cells := by
  unfold discardEmpty
  split <;> rfl

theorem cell_discardEmpty (key : Key) (own slot : Nat) :
    (s.discardEmpty key own).cell slot = s.cell slot := by
  rw [Store.cell,cells_discardEmpty,Store.cell]

end Store

-- The keys that an invalidation takes away.
def covers : Option String → Key → Bool
  | none,_ => true
  | some name,key => key.model = name

namespace Store

variable (s : Store κ α)

theorem slot?_invalidate (model : Option String) (key : Key) :
    (s.invalidate model).1.slot? key = if covers model key then none else s.slot? key := by
  cases model with
  | none => rfl
  | some name =>
    have filtered := lookup_filter s.slots (·.model ≠ name) key
    by_cases same : key.model = name <;> simpa [invalidate,slot?,covers,same] using filtered

theorem cell_setCell_self {slot : Nat} (made : slot < s.cells.length) (cell : Cell κ α) :
    (s.setCell slot cell).cell slot = cell := by
  simp [setCell,Store.cell,made]

theorem cell_setCell_other {slot own : Nat} (apart : slot ≠ own) (cell : Cell κ α) :
    (s.setCell own cell).cell slot = s.cell slot := by
  simp [setCell,Store.cell,List.getElem?_set_ne apart.symm]

theorem cell_newSlot (key : Key) (cell : Cell κ α) {slot : Nat} (made : slot < s.cells.length) :
    (s.newSlot key cell).cell slot = s.cell slot := by
  simp [newSlot,Store.cell,List.getElem?_append_left made]

theorem cell_newSlot_self (key : Key) (cell : Cell κ α) :
    (s.newSlot key cell).cell s.cells.length = cell := by
  simp [newSlot,Store.cell]

end Store

-- The slot that a call wants filled, by itself or by another call.
def Phase.asking? : Phase α → Option Nat
  | .entering slot | .waiting slot => some slot
  | _ => none

-- The slot that a call has in hand.
def Phase.slot? : Phase α → Option Nat
  | .found slot | .entering slot | .waiting slot | .failing slot _ => some slot
  | .computing slot | .ended slot _ => slot
  | .starting | .done _ _ => none

-- The slot that a call computes for, which then nobody else may fill.
def Phase.filling? : Phase α → Option Nat
  | .computing slot | .ended slot _ => slot
  | _ => none

-- Whether a call computes a result that is to replace one of another kind.
def Phase.replaces : Phase α → Bool
  | .computing none | .ended none _ => true
  | _ => false

theorem Phase.asking_slot {phase : Phase α} (asks : phase.asking? = some slot) :
    phase.slot? = some slot := by
  cases phase with
  | entering own => exact asks
  | waiting own => exact asks
  | _ => cases asks

theorem Phase.filling_slot {phase : Phase α} (fills : phase.filling? = some slot) :
    phase.slot? = some slot := by
  cases phase with
  | computing own => exact fills
  | ended own outcome => exact fills
  | _ => cases fills

-- One constructor for each thing that a step may do, with all that it depends on.
inductive Move (s : Store κ α) (call : Nat) (r : Request κ) :
    Phase α → Store κ α → Phase α → Prop where
  | reuse (leads : s.slot? r.key = some slot) : Move s call r .starting s (.found slot)
  | make (unknown : s.slot? r.key = none) :
      Move s call r .starting (s.newSlot r.key .empty) (.found s.cells.length)
  | miss (empty : s.entry? slot = none) : Move s call r (.found slot) s (.entering slot)
  | hit (filled : s.entry? slot = some entry) (same : entry.kind = r.kind) :
      Move s call r (.found slot) s.countHit (.done false (.ok entry.value))
  | clash (filled : s.entry? slot = some entry) (other : entry.kind ≠ r.kind) :
      Move s call r (.found slot) s.countMiss (.computing none)
  | share (asked : phase.asking? = some slot)
      (filled : s.entry? slot = some entry) (same : entry.kind = r.kind) :
      Move s call r phase s.countHit (.done false (.ok entry.value))
  | refuse (asked : phase.asking? = some slot)
      (filled : s.entry? slot = some entry) (other : entry.kind ≠ r.kind) :
      Move s call r phase s.countHit (.done false (.error r.conflict))
  | permit (empty : s.entry? slot = none) (free : (s.cell slot).holder = none) :
      Move s call r (.entering slot) (s.hold slot call) (.computing (some slot))
  | queue (empty : s.entry? slot = none) (held : (s.cell slot).holder = some holder) :
      Move s call r (.entering slot) (s.await slot call) (.waiting slot)
  | granted (empty : s.entry? slot = none) (mine : (s.cell slot).holder = some call) :
      Move s call r (.waiting slot) s (.computing (some slot))
  | wait (empty : s.entry? slot = none) (others : (s.cell slot).holder ≠ some call) :
      Move s call r (.waiting slot) s (.waiting slot)
  | fill : Move s call r (.ended (some slot) (.ok v)) (s.fill slot ⟨r.kind,v⟩).countMiss
      (.done true (.ok v))
  | fail : Move s call r (.ended (some slot) (.error e)) (s.passOn slot) (.failing slot e)
  | discard : Move s call r (.failing slot e) (s.countMiss.discardEmpty r.key slot)
      (.done true (.error e))
  | replace : Move s call r (.ended none (.ok v)) (s.replace r.key ⟨r.kind,v⟩) (.done true (.ok v))
  | abandon : Move s call r (.ended none (.error e)) s (.done true (.error e))
  | compute : Move s call r (.computing slot) s (.computing slot)
  | rest : Move s call r (.done computed result) s (.done computed result)

namespace Move

variable [DecidableEq κ] {s store : Store κ α} {r : Request κ} {phase next : Phase α}

theorem after_wait (asked : phase.asking? = some slot)
    (filled : s.entry? slot = some entry) :
    Move s call r phase (s.afterWait r entry).1 (s.afterWait r entry).2 := by
  unfold Store.afterWait
  by_cases same : entry.kind = r.kind
  · rw [if_pos same]
    exact .share asked filled same
  · rw [if_neg same]
    exact .refuse asked filled same

theorem of_advance (s : Store κ α) (call : Nat) (r : Request κ) (phase : Phase α) :
    Move s call r phase (s.advance call r phase).1 (s.advance call r phase).2 := by
  cases phase with
  | starting =>
    unfold Store.advance Store.slotFor
    cases leads : s.slot? r.key with
    | none => exact .make leads
    | some slot => exact .reuse leads
  | found slot =>
    simp only [Store.advance]
    cases filled : s.entry? slot with
    | none => exact .miss filled
    | some entry =>
      by_cases same : entry.kind = r.kind
      · simp only [if_pos same]
        exact .hit filled same
      · simp only [if_neg same]
        exact .clash filled same
  | entering slot =>
    simp only [Store.advance]
    cases filled : s.entry? slot with
    | some entry => exact after_wait rfl filled
    | none =>
      cases held : (s.cell slot).holder with
      | none => exact .permit filled held
      | some holder => exact .queue filled held
  | waiting slot =>
    simp only [Store.advance]
    cases filled : s.entry? slot with
    | some entry => exact after_wait rfl filled
    | none =>
      by_cases mine : (s.cell slot).holder = some call
      · simp only [if_pos mine]
        exact .granted filled mine
      · simp only [if_neg mine]
        exact .wait filled mine
  | computing slot => exact .compute
  | ended slot outcome =>
    cases slot with
    | none =>
      cases outcome with
      | error e => exact .abandon
      | ok v => exact .replace
    | some slot =>
      cases outcome with
      | error e => exact .fail
      | ok v => exact .fill
  | failing slot e => exact .discard
  | done computed result => exact .rest

end Move

-- All that a move may do to a cell that was there before it.
inductive Move.Touches (call : Nat) (r : Request κ) (slot : Nat) (old : Cell κ α) :
    Phase α → Cell κ α → Prop where
  | not : Touches call r slot old phase old
  | hold (empty : old.entry = none) (free : old.holder = none) :
      Touches call r slot old (.entering slot) { old with holder := some call }
  | await : Touches call r slot old (.entering slot) { old with queue := old.queue ++ [call] }
  | fill : Touches call r slot old (.ended (some slot) (.ok v)) ⟨some ⟨r.kind,v⟩,none,[]⟩
  | passOn : Touches call r slot old (.ended (some slot) (.error e))
      ⟨old.entry,old.queue.head?,old.queue.tail⟩

namespace Move

variable {s store : Store κ α} {r : Request κ} {phase next : Phase α}

theorem cells_grow (moved : Move s call r phase store next) :
    s.cells.length ≤ store.cells.length := by
  cases moved with
  | make | replace => simp [Store.newSlot,Store.replace]
  | permit | queue | fill | fail =>
    simp [Store.hold,Store.await,Store.fill,Store.passOn,Store.setCell,Store.countMiss]
  | discard => simp [Store.cells_discardEmpty,Store.countMiss]
  | _ => exact Nat.le_refl _

-- Keys are led to new slots only, and a move makes at most one.
theorem slot?_before_or_made (moved : Move s call r phase store next) (now : store.slot? key = some slot) :
    s.slot? key = some slot ∨
      key = r.key ∧ slot = s.cells.length ∧ s.cells.length < store.cells.length := by
  cases moved with
  | make | replace =>
    simp only [Store.replace,Store.slot?_newSlot] at now
    split at now
    · rename_i own
      cases now
      exact .inr ⟨own,rfl,by simp [Store.newSlot,Store.replace]⟩
    · exact .inl now
  | discard =>
    rw [Store.slot?_discardEmpty] at now
    split at now
    · cases now
    · exact .inl now
  | _ => exact .inl now

theorem in_hand_or_led (moved : Move s call r phase store next) (has : next.slot? = some slot) :
    phase.slot? = some slot ∨ store.slot? r.key = some slot := by
  cases moved with
  | reuse leads =>
    cases has
    exact .inr leads
  | make =>
    cases has
    exact .inr (by simp [Store.slot?_newSlot])
  | hit | clash | share | refuse | fill | discard | replace | abandon | rest => cases has
  | _ => exact .inl has

theorem touches_cell (moved : Move s call r phase store next) (made : slot < s.cells.length) :
    Touches call r slot (s.cell slot) phase (store.cell slot) := by
  cases moved with
  | make | replace =>
    simp only [Store.replace,Store.cell_newSlot _ _ _ made]
    exact .not
  | @permit own empty free =>
    by_cases same : slot = own
    · subst same
      rw [Store.hold,Store.cell_setCell_self _ made]
      exact .hold empty free
    · rw [Store.hold,Store.cell_setCell_other _ same]
      exact .not
  | @queue own other empty held =>
    by_cases same : slot = own
    · subst same
      rw [Store.await,Store.cell_setCell_self _ made]
      exact .await
    · rw [Store.await,Store.cell_setCell_other _ same]
      exact .not
  | @fill own v =>
    change Touches call r slot _ _ ((s.fill own ⟨r.kind,v⟩).cell slot)
    by_cases same : slot = own
    · subst same
      rw [Store.fill,Store.cell_setCell_self _ made]
      exact .fill
    · rw [Store.fill,Store.cell_setCell_other _ same]
      exact .not
  | @fail own e =>
    by_cases same : slot = own
    · subst same
      rw [Store.passOn,Store.cell_setCell_self _ made]
      exact .passOn
    · rw [Store.passOn,Store.cell_setCell_other _ same]
      exact .not
  | @discard own e =>
    have kept : (s.countMiss.discardEmpty r.key own).cell slot = s.cell slot :=
      s.countMiss.cell_discardEmpty r.key own slot
    rw [kept]
    exact .not
  | _ => exact .not

-- A slot that a move makes is empty, or has the result that replaces another.
theorem made_cell (moved : Move s call r phase store next) (grown : s.cells.length < store.cells.length) :
    store.cell s.cells.length = .empty ∨ ∃ v, phase = .ended none (.ok v) ∧
      store.cell s.cells.length = ⟨some ⟨r.kind,v⟩,none,[]⟩ := by
  cases moved with
  | make => exact .inl (s.cell_newSlot_self r.key .empty)
  | replace => exact .inr ⟨_,rfl,s.cell_newSlot_self r.key _⟩
  | permit | queue | fill | fail =>
    simp [Store.hold,Store.await,Store.fill,Store.passOn,Store.setCell,Store.countMiss] at grown
  | @discard slot e =>
    have kept : (s.countMiss.discardEmpty r.key slot).cells = s.cells :=
      s.countMiss.cells_discardEmpty r.key slot
    rw [kept] at grown
    omega
  | _ => exact absurd grown (Nat.lt_irrefl _)

-- A key stays where it leads, but for a replacement and for a slot that was left empty.
theorem slot?_kept_or_renewed (moved : Move s call r phase store next) (leads : s.slot? key = some slot) :
    store.slot? key = some slot ∨ r.key = key ∧ ((∃ v, phase = .ended none (.ok v)) ∨
      ∃ e, phase = .failing slot e ∧ s.entry? slot = none ∧ store.slot? key = none) := by
  cases moved with
  | make unknown =>
    rw [Store.slot?_newSlot]
    split
    · rename_i own
      rw [own,unknown] at leads
      cases leads
    · exact .inl leads
  | @replace v =>
    rw [Store.replace,Store.slot?_newSlot]
    split
    · rename_i own
      exact .inr ⟨own.symm,.inl ⟨v,rfl⟩⟩
    · exact .inl leads
  | @discard own e =>
    rw [Store.slot?_discardEmpty]
    split
    · rename_i taken
      obtain ⟨rfl,led,empty⟩ := taken
      cases leads.symm.trans led
      exact .inr ⟨rfl,.inr ⟨e,rfl,empty,rfl⟩⟩
    · exact .inl leads
  | _ => exact .inl leads

end Move

end DataAccess.Cache
