import DataAccess.Proofs.Cache.Places

-- What a call comes to in a turn of its own, in which no other call takes a step.
namespace DataAccess.Cache

namespace Store

variable [DecidableEq κ] {s store : Store κ α} {call n : Nat} {r : Request κ} {phase next : Phase α}

-- So many steps of a call.
def steps (s : Store κ α) (call : Nat) (r : Request κ) : Nat → Phase α → Store κ α × Phase α
  | 0,phase => (s,phase)
  | n + 1,phase => steps (s.advance call r phase).1 call r n (s.advance call r phase).2

theorem steps_succ (moved : s.advance call r phase = (store,next)) :
    s.steps call r (n + 1) phase = store.steps call r n next := by
  rw [steps,moved]

theorem steps_stay (stays : s.advance call r phase = (s,phase)) (n : Nat) :
    s.steps call r n phase = (s,phase) := by
  induction n with
  | zero => rfl
  | succ n ih => rw [steps_succ stays,ih]

theorem steps_done (n : Nat) : s.steps call r n (.done own result) = (s,.done own result) :=
  steps_stay rfl n

theorem steps_computing (n : Nat) : s.steps call r n (.computing place) = (s,.computing place) :=
  steps_stay rfl n

theorem advance_led (leads : s.slot? r.key = some slot) :
    s.advance call r .starting = (s,.found slot) := by
  simp only [advance,slotFor,leads]

theorem advance_same (filled : s.entry? slot = some entry) (same : entry.kind = r.kind) :
    s.advance call r (.found slot) = (s.countHit,.done false (.ok entry.value)) := by
  simp only [advance,filled,if_pos same]

theorem advance_other (filled : s.entry? slot = some entry) (other : entry.kind ≠ r.kind) :
    s.advance call r (.found slot) = (s.countMiss,.computing none) := by
  simp only [advance,filled,if_neg other]

-- The steps of a first call for a key, which opens a slot and holds it.
theorem advance_unled (call : Nat) (unled : s.slot? r.key = none) :
    s.advance call r .starting = (s.newSlot r.key .empty,.found s.cells.length) ∧
    (s.newSlot r.key .empty).advance call r (.found s.cells.length) =
      (s.newSlot r.key .empty,.entering s.cells.length) ∧
    (s.newSlot r.key .empty).advance call r (.entering s.cells.length) =
      (s.newSlot r.key ⟨none,some call,[]⟩,.computing (some s.cells.length)) := by
  have empty : (s.newSlot r.key .empty).cell s.cells.length = .empty := s.cell_newSlot_self r.key .empty
  have unfilled : Store.entry? (s.newSlot r.key .empty) s.cells.length = none := congrArg Cell.entry empty
  have free : ((s.newSlot r.key .empty).cell s.cells.length).holder = none :=
    congrArg Cell.holder empty
  have held : (s.newSlot r.key .empty).hold s.cells.length call = s.newSlot r.key ⟨none,some call,[]⟩ := by
    rw [Store.hold,empty,Store.setCell_newSlot]
    rfl
  refine ⟨?_,?_,?_⟩
  · simp only [advance,slotFor,unled]
  · simp only [advance,unfilled]
  · simp only [advance,unfilled,free,held]

theorem steps_hit (leads : s.slot? r.key = some slot) (filled : s.entry? slot = some entry)
    (same : entry.kind = r.kind) :
    s.steps call r 6 .starting = (s.countHit,.done false (.ok entry.value)) := by
  rw [steps_succ (advance_led leads),steps_succ (advance_same filled same),steps_done]

theorem steps_clash (leads : s.slot? r.key = some slot) (filled : s.entry? slot = some entry)
    (other : entry.kind ≠ r.kind) : s.steps call r 6 .starting = (s.countMiss,.computing none) := by
  rw [steps_succ (advance_led leads),steps_succ (advance_other filled other),steps_computing]

theorem steps_open (unled : s.slot? r.key = none) : s.steps call r 6 .starting =
    (s.newSlot r.key ⟨none,some call,[]⟩,.computing (some s.cells.length)) := by
  obtain ⟨looks,finds,enters⟩ := advance_unled call unled
  rw [steps_succ looks,steps_succ finds,steps_succ enters,steps_computing]

theorem advance_waiting (cell : s.cell slot = ⟨none,some holder,queue⟩) (apart : holder ≠ call) :
    s.advance call r (.waiting slot) = (s,.waiting slot) := by
  have empty : s.entry? slot = none := congrArg Cell.entry cell
  have held : (s.cell slot).holder ≠ some call := by
    rw [cell]
    exact fun same => apart (Option.some.inj same)
  simp only [advance,empty,if_neg held]

-- Those that come after it stand in the queue behind it.
theorem steps_queue (leads : s.slot? r.key = some slot) (made : slot < s.cells.length)
    (cell : s.cell slot = ⟨none,some holder,queue⟩) (apart : holder ≠ call) :
    s.steps call r 6 .starting =
      (s.setCell slot ⟨none,some holder,queue ++ [call]⟩,.waiting slot) := by
  have empty : s.entry? slot = none := congrArg Cell.entry cell
  have held : (s.cell slot).holder = some holder := congrArg Cell.holder cell
  have finds : s.advance call r (.found slot) = (s,.entering slot) := by
    simp only [advance,empty]
  have enters : s.advance call r (.entering slot) =
      (s.setCell slot ⟨none,some holder,queue ++ [call]⟩,.waiting slot) := by
    simp only [advance,empty,held]
    rw [await,cell]
  rw [steps_succ (advance_led leads),steps_succ finds,steps_succ enters]
  exact steps_stay (advance_waiting (s.cell_setCell_self made _) apart) _

theorem steps_granted (cell : s.cell slot = ⟨none,some call,queue⟩) :
    s.steps call r 6 (.waiting slot) = (s,.computing (some slot)) := by
  have empty : s.entry? slot = none := congrArg Cell.entry cell
  have mine : (s.cell slot).holder = some call := congrArg Cell.holder cell
  have moved : s.advance call r (.waiting slot) = (s,.computing (some slot)) := by
    simp only [advance,empty,if_pos mine]
  rw [steps_succ moved,steps_computing]

theorem steps_served (filled : s.entry? slot = some ⟨r.kind,v⟩) :
    s.steps call r 6 (.waiting slot) = (s.countHit,.done false (.ok v)) := by
  have moved : s.advance call r (.waiting slot) = (s.countHit,.done false (.ok v)) := by
    simp only [advance,filled,afterWait,if_pos]
  rw [steps_succ moved,steps_done]

theorem steps_fill : s.steps call r 6 (.ended (some slot) (.ok v)) =
    ((s.fill slot ⟨r.kind,v⟩).countMiss,.done true (.ok v)) := by
  rw [steps_succ rfl,steps_done]

theorem steps_fail : s.steps call r 6 (.ended (some slot) (.error e)) =
    ((s.passOn slot).countMiss.discardEmpty r.key slot,.done true (.error e)) := by
  rw [steps_succ rfl,steps_succ rfl,steps_done]

theorem steps_replace (s : Store κ α) (call : Nat) (r : Request κ) (outcome : Except Error α) :
    ∃ store, s.steps call r 6 (.ended none outcome) = (store,.done true outcome) := by
  cases outcome with
  | ok v => exact ⟨_,by rw [steps_succ rfl,steps_done]⟩
  | error e => exact ⟨_,by rw [steps_succ rfl,steps_done]⟩

end Store

namespace Machine

variable {store : Store κ α} {before after : List (Call κ α)} {r : Request κ} {phase : Phase α}

theorem at_here : (Machine.mk store (before ++ ⟨r,phase⟩ :: after)).At before.length r phase := by
  simp [At]

theorem set_here (next : Phase α) : (before ++ ⟨r,phase⟩ :: after).set before.length ⟨r,next⟩ =
    before ++ ⟨r,next⟩ :: after := by
  simp

-- The steps of a call change the store and that call.
theorem run_here [DecidableEq κ] (n : Nat) :
    (Machine.mk store (before ++ ⟨r,phase⟩ :: after)).run (List.replicate n (.step before.length)) =
      ⟨(store.steps before.length r n phase).1,
        before ++ ⟨r,(store.steps before.length r n phase).2⟩ :: after⟩ := by
  induction n generalizing store phase with
  | zero => rfl
  | succ n ih =>
    have stepped := step_eq (m := ⟨store,before ++ ⟨r,phase⟩ :: after⟩) at_here
    rw [set_here] at stepped
    rw [List.replicate_succ,run,List.foldl_cons,act,stepped]
    exact ih

theorem turn_here [DecidableEq κ] (place : Option Nat) (outcome : Except Error α) :
    (Machine.mk store (before ++ ⟨r,.computing place⟩ :: after)).turn before.length outcome =
      ⟨(store.steps before.length r 6 (.ended place outcome)).1,
        before ++ ⟨r,(store.steps before.length r 6 (.ended place outcome)).2⟩ :: after⟩ := by
  rw [turn,finish_at at_here,set_here]
  exact run_here 6

end Machine

end DataAccess.Cache
