import DataAccess.Proofs.Cache.Answers

-- How far calls have come: the computations that begin on the way, and the steps that are left. A
-- call can only take so many steps, so a schedule that changes something with each action comes to
-- an end.
namespace DataAccess.Cache

namespace Phase

-- Whether a call's computation is under way.
def isComputing : Phase α → Bool
  | .computing _ => true
  | _ => false

def isReturned : Phase α → Bool
  | .done _ _ => true
  | _ => false

-- What a call's own computation gave it.
def own? : Phase α → Option α
  | .ended _ (.ok v) | .done true (.ok v) => some v
  | _ => none

-- How many steps a call can take yet, at most.
def left : Phase α → Nat
  | .starting => 7
  | .found _ => 6
  | .entering _ => 5
  | .waiting _ => 4
  | .computing _ => 3
  | .ended _ _ => 2
  | .failing _ _ => 1
  | .done _ _ => 0

theorem left_le (phase : Phase α) : phase.left ≤ 7 := by
  cases phase <;> simp [left]

end Phase

namespace Move

variable {s after : Store κ α} {r : Request κ} {phase next : Phase α}

theorem left (moved : Move s call r phase after next) :
    (after = s ∧ next = phase) ∨ next.left < phase.left := by
  cases moved with
  | share asked | refuse asked =>
    cases phase with
    | entering | waiting => exact .inr (by simp [Phase.left])
    | _ => cases asked
  | wait | compute | rest => exact .inl ⟨rfl,rfl⟩
  | _ => exact .inr (by simp [Phase.left])

theorem own? (moved : Move s call r phase after next) (has : next.own? = some v) :
    phase.own? = some v := by
  cases moved with
  | fill | replace | rest => exact has
  | _ => cases has

end Move

-- A call whose step would change nothing waits for another, computes or has returned.
theorem Move.stuck {s after : Store κ α} {r : Request κ} {phase next : Phase α}
    (moved : Move s call r phase after next) (stays : next = phase) :
    (∃ slot, phase = .waiting slot ∧ s.entry? slot = none) ∨ (∃ place, phase = .computing place) ∨
      ∃ computed result, phase = .done computed result := by
  cases moved with
  | wait empty => exact .inl ⟨_,rfl,empty⟩
  | compute => exact .inr (.inl ⟨_,rfl⟩)
  | rest => exact .inr (.inr ⟨_,_,rfl⟩)
  | share asked | refuse asked =>
    subst stays
    cases asked
  | _ => cases stays

-- Actions with which calls go on.
def Action.continues : Action κ α → Bool
  | .step _ | .finish _ _ => true
  | .start _ | .invalidate _ => false

namespace Machine

def isComputing (m : Machine κ α) (call : Nat) : Bool :=
  (m.calls[call]?).any fun c => c.phase.isComputing

-- Computations that begin with an action.
def begins [DecidableEq κ] (m : Machine κ α) : Action κ α → Nat
  | .step call => if !m.isComputing call && (m.step call).isComputing call then 1 else 0
  | _ => 0

-- Computations that begin while a schedule runs.
def computations [DecidableEq κ] (m : Machine κ α) : List (Action κ α) → Nat
  | [] => 0
  | a :: rest => m.begins a + (m.act a).computations rest

-- The computation of a call ended with a value while a schedule ran.
def Computed [DecidableEq κ] (m : Machine κ α) (actions : List (Action κ α)) (call : Nat)
    (r : Request κ) (v : α) : Prop :=
  ∃ before after place, actions = before ++ .finish call (.ok v) :: after ∧
    (m.run before).At call r (.computing place)

-- No computation is under way, and no step changes anything.
def Resting [DecidableEq κ] (m : Machine κ α) : Prop :=
  (∀ call r place, ¬m.At call r (.computing place)) ∧ ∀ call, m.step call = m

-- What the phases of all calls weigh together.
def total (m : Machine κ α) (weigh : Phase α → Nat) : Nat :=
  m.calls.foldr (fun c others => weigh c.phase + others) 0

def left (m : Machine κ α) : Nat := m.total Phase.left

def returned (m : Machine κ α) : Nat := m.total fun phase => phase.isReturned.toNat

variable {m next : Machine κ α} {a : Action κ α}

theorem total_push (m : Machine κ α) (weigh : Phase α → Nat) (r : Request κ) :
    (m.start r).total weigh = m.total weigh + weigh .starting := by
  obtain ⟨store,calls⟩ := m
  unfold total start
  induction calls with
  | nil => exact Nat.add_comm _ _
  | cons c calls ih =>
    simp only [List.cons_append,List.foldr_cons] at ih ⊢
    omega

theorem total_set (found : m.At call r phase) (after : Store κ α) (next : Phase α)
    (weigh : Phase α → Nat) : total ⟨after,m.calls.set call ⟨r,next⟩⟩ weigh + weigh phase =
      m.total weigh + weigh next := by
  obtain ⟨store,calls⟩ := m
  unfold At at found
  unfold total
  induction calls generalizing call with
  | nil => cases found
  | cons c calls ih =>
    cases call with
    | zero =>
      cases found
      simp only [List.set_cons_zero,List.foldr_cons]
      omega
    | succ call =>
      have further := ih (by simpa using found)
      simp only [List.set_cons_succ,List.foldr_cons] at further ⊢
      omega

theorem left_le (m : Machine κ α) : m.left ≤ 7 * m.calls.length := by
  obtain ⟨store,calls⟩ := m
  unfold left total
  induction calls with
  | nil => exact Nat.le_refl _
  | cons c calls ih =>
    have own := c.phase.left_le
    simp only [List.foldr_cons,List.length_cons] at ih ⊢
    omega

theorem returned_of_done (done : m.isDone = true) : m.returned = m.calls.length := by
  obtain ⟨store,calls⟩ := m
  unfold returned total
  induction calls with
  | nil => rfl
  | cons c calls ih =>
    simp only [isDone,List.all_cons,Bool.and_eq_true] at done
    have own : c.phase.isReturned = true := done.1
    have further := ih done.2
    simp only [List.foldr_cons,List.length_cons,own] at further ⊢
    rw [further,Nat.add_comm]
    rfl

theorem isComputing_at (found : m.At call own phase) : m.isComputing call = phase.isComputing := by
  unfold At at found
  rw [isComputing,found]
  rfl

theorem at_self (found : m.At call r phase) : ⟨m.store,m.calls.set call ⟨r,phase⟩⟩ = m := by
  obtain ⟨store,calls⟩ := m
  obtain ⟨made,own⟩ := List.getElem?_eq_some_iff.mp found
  rw [← own,List.set_getElem_self]

-- Whatever goes on changes nothing, or leaves fewer steps.
theorem Acts.left (acts : Acts m a next) (goes : a.continues) : next = m ∨ next.left < m.left := by
  cases acts with
  | start | invalidate => cases goes
  | @step call r phase after next found moved =>
    rcases moved.left with ⟨rfl,rfl⟩ | fewer
    · exact .inl (at_self found)
    · have weighed := total_set found after next Phase.left
      unfold Machine.left
      exact .inr (by omega)
  | @finish call r slot outcome found =>
    have weighed := total_set found m.store (.ended slot outcome) Phase.left
    have fewer : (Phase.ended slot outcome).left < (Phase.computing slot : Phase α).left := by
      simp [Phase.left]
    unfold Machine.left
    exact .inr (by omega)
  | noCall | noComputation => exact .inl rfl

section Running

variable [DecidableEq κ]

-- At rest a call waits or has returned.
theorem Resting.waits {r : Request κ} (resting : m.Resting) (found : m.At call r phase) :
    (∃ slot, phase = .waiting slot ∧ m.store.entry? slot = none) ∨ phase.isReturned = true := by
  have now := step_at found
  rw [resting.2 call] at now
  have stays : (m.store.advance call r phase).2 = phase :=
    congrArg Call.phase (Option.some.inj (now.symm.trans found))
  rcases (Move.of_advance m.store call r phase).stuck stays with
    waits | ⟨place,rfl⟩ | ⟨computed,result,rfl⟩
  · exact .inl waits
  · exact absurd found (resting.1 _ _ _)
  · exact .inr rfl

theorem resting_of_done (done : m.isDone = true) : m.Resting := by
  have returned : ∀ call r phase, m.At call r phase → phase.isReturned = true := by
    intro call r phase found
    exact List.all_eq_true.mp done ⟨r,phase⟩ (List.mem_of_getElem? found)
  refine ⟨fun call r place found => ?_,fun call => ?_⟩
  · cases returned _ _ _ found
  · cases found : m.calls[call]? with
    | none => simp only [step,found]
    | some c =>
      obtain ⟨r,phase⟩ := c
      cases phase with
      | done computed result => exact (step_eq found).trans (at_self found)
      | _ => cases returned _ _ _ found

theorem computations_append (m : Machine κ α) (first second : List (Action κ α)) :
    m.computations (first ++ second) = m.computations first + (m.run first).computations second := by
  induction first generalizing m with
  | nil => exact (Nat.zero_add _).symm
  | cons a first ih =>
    rw [List.cons_append,computations,computations,ih,Nat.add_assoc]
    rfl

theorem Computed.further {r : Request κ} (computed : m.Computed done call r v) (a : Action κ α) :
    m.Computed (done ++ [a]) call r v := by
  obtain ⟨before,after,place,rfl,computing⟩ := computed
  exact ⟨before,after ++ [a],place,by simp,computing⟩

theorem changes_bounded {more : List (Action κ α)} (goes : ∀ a ∈ more, a.continues)
    (changes : ∀ before a after, more = before ++ a :: after →
      (m.run before).act a ≠ m.run before) : more.length ≤ m.left := by
  induction more generalizing m with
  | nil => exact Nat.zero_le _
  | cons a more ih =>
    have own : m.act a ≠ m := changes [] a more rfl
    have further : more.length ≤ (m.act a).left :=
      ih (fun b member => goes b (by simp [member])) fun before b after split =>
        changes (a :: before) b after (by rw [split,List.cons_append])
    rcases (m.acts_act a).left (goes a (by simp)) with same | fewer
    · exact absurd same own
    · rw [List.length_cons]
      omega

end Running

end Machine

end DataAccess.Cache
