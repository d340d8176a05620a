import DataAccess.Proofs.Cache.Slots

-- How a call comes to its answer when there is one for it.
namespace DataAccess.Cache

namespace Machine

-- A key leads to a slot with this in it.
def Keeps (m : Machine κ α) (key : Key) (slot : Nat) (entry : Entry κ α) : Prop :=
  m.store.slot? key = some slot ∧ m.store.entry? slot = some entry

theorem find?_some {s : Store κ α} :
    s.find? key = some entry ↔ ∃ slot, s.slot? key = some slot ∧ s.entry? slot = some entry :=
  Option.bind_eq_some_iff

theorem result_done {m : Machine κ α} (found : m.At call r (.done computed result)) :
    m.result? call = some (computed,result) := by
  unfold At at found
  simp only [result?,found]

theorem at_of_result {m : Machine κ α} (answered : m.result? call = some (own,result)) :
    ∃ r, m.At call r (.done own result) := by
  unfold result? at answered
  split at answered
  · rename_i r _ _ found
    cases answered
    exact ⟨r,found⟩
  · cases answered

theorem finish_at {m : Machine κ α} (found : m.At call r (.computing place)) (outcome : Except Error α) :
    m.finish call outcome = ⟨m.store,m.calls.set call ⟨r,.ended place outcome⟩⟩ := by
  unfold At at found
  simp only [finish,found]
  exact setPhase_eq found m.store _

theorem start_at (m : Machine κ α) (r : Request κ) : (m.start r).At m.calls.length r .starting := by
  simp [At,start]

variable [DecidableEq κ] {m : Machine κ α} {r : Request κ} {phase : Phase α}

theorem step_eq (found : m.At call r phase) : m.step call =
    ⟨(m.store.advance call r phase).1,m.calls.set call ⟨r,(m.store.advance call r phase).2⟩⟩ := by
  unfold At at found
  simp only [step,found]
  exact setPhase_eq found _ _

theorem step_at (found : m.At call r phase) :
    (m.step call).At call r (m.store.advance call r phase).2 := by
  rw [step_eq found]
  exact List.getElem?_set_self (List.getElem?_eq_some_iff.mp found).1

-- A call that finds what is kept has it for its answer.
theorem found_step (filled : m.store.entry? slot = some ⟨r.kind,v⟩)
    (found : m.At call r (.found slot)) : (m.step call).At call r (.done false (.ok v)) := by
  have hit := step_at found
  simpa only [Store.advance,filled,if_pos] using hit

theorem starting_steps (kept : m.Keeps r.key slot ⟨r.kind,v⟩) (found : m.At call r .starting) :
    ((m.step call).step call).At call r (.done false (.ok v)) := by
  obtain ⟨leads,filled⟩ := kept
  have placed := step_at found
  have same : (m.step call).store = m.store := by
    rw [step_eq found]
    simp only [Store.advance,Store.slotFor,leads]
  simp only [Store.advance,Store.slotFor,leads] at placed
  exact found_step (by rw [same]; exact filled) placed

end Machine

end DataAccess.Cache
