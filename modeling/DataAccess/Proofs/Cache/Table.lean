import DataAccess.Proofs.Cache.Progress
import DataAccess.Proofs.Cache.Turns

-- A store as a finite map. When calls do not overlap, every place of a store has a result in it,
-- and what a call, an invalidation or a question does to the store is what it does to a table of
-- keys and results.
namespace DataAccess.Cache

-- Results under distinct keys, in the order in which they were put in.
structure Table (κ α : Type) where
  entries : List (Key × Entry κ α)
  distinct : (entries.map Prod.fst).Nodup

namespace Table

def empty : Table κ α := ⟨[],List.nodup_nil⟩

def find? (t : Table κ α) (key : Key) : Option (Entry κ α) := t.entries.lookup key

def size (t : Table κ α) : Nat := t.entries.length

def keep (t : Table κ α) (kept : Key → Bool) : Table κ α :=
  ⟨t.entries.filter fun place => kept place.1,filter_distinct t.distinct _⟩

-- In place of what was there before under the key.
def insert (t : Table κ α) (key : Key) (entry : Entry κ α) : Table κ α :=
  ⟨t.entries.filter (·.1 ≠ key) ++ [(key,entry)],renewed_distinct t.distinct key entry⟩

theorem find?_keep (t : Table κ α) (kept : Key → Bool) (key : Key) :
    (t.keep kept).find? key = if kept key then t.find? key else none :=
  lookup_filter t.entries kept key

theorem find?_insert (t : Table κ α) (key other : Key) (entry : Entry κ α) :
    (t.insert key entry).find? other = if other = key then some entry else t.find? other :=
  lookup_renewed t.entries key other entry

end Table

-- What may be asked of a cache, each in its turn: a call whose computation would end like this, and
-- the other questions.
inductive Op (κ α : Type) where
  | call (r : Request κ) (outcome : Except Error α)
  | invalidate (model : Option String)
  | contains (key : Key)
  | entryCount

inductive Answer (α : Type) where
  | result (computations : Nat) (result : Except Error α)
  | removed (n : Nat)
  | holds (b : Bool)
  | entries (n : Nat)

-- A call from its start to its return, with nothing in between.
def Machine.alone (r : Request κ) (outcome : Except Error α) : List (Action κ α) :=
  [.start r,.step 0,.step 0,.step 0,.finish 0 outcome,.step 0,.step 0]

def Store.perform [DecidableEq κ] (s : Store κ α) : Op κ α → Store κ α × Answer α
  | .call r outcome =>
    ((s.getOrCompute r outcome).1,.result
      ((Machine.ofStore s).computations (Machine.alone r outcome)) (s.getOrCompute r outcome).2.2)
  | .invalidate model => ((s.invalidate model).1,.removed (s.invalidate model).2)
  | .contains key => (s,.holds (s.contains key))
  | .entryCount => (s,.entries s.entryCount)

namespace Table

-- A computation whose result is kept if there is one.
def compute (t : Table κ α) (r : Request κ) : Except Error α → Table κ α
  | .ok v => t.insert r.key ⟨r.kind,v⟩
  | .error _ => t

def perform [DecidableEq κ] (t : Table κ α) : Op κ α → Table κ α × Answer α
  | .call r outcome =>
    match t.find? r.key with
    | some entry =>
      if entry.kind = r.kind then (t,.result 0 (.ok entry.value))
      else (t.compute r outcome,.result 1 outcome)
    | none => (t.compute r outcome,.result 1 outcome)
  | .invalidate model =>
    (t.keep fun key => !covers model key,.removed (t.entries.countP fun place => covers model place.1))
  | .contains key => (t,.holds (t.find? key).isSome)
  | .entryCount => (t,.entries t.size)

theorem perform_found [DecidableEq κ] {t : Table κ α} {r : Request κ}
    (found : t.find? r.key = some entry) (same : entry.kind = r.kind) (outcome : Except Error α) :
    t.perform (.call r outcome) = (t,.result 0 (.ok entry.value)) := by
  simp only [perform,found,if_pos same]

theorem perform_computed [DecidableEq κ] {t : Table κ α} {r : Request κ}
    (other : ∀ entry, t.find? r.key = some entry → entry.kind ≠ r.kind) (outcome : Except Error α) :
    t.perform (.call r outcome) = (t.compute r outcome,.result 1 outcome) := by
  cases found : t.find? r.key with
  | none => simp only [perform,found]
  | some entry => simp only [perform,found,if_neg (other entry found)]

end Table

def Store.answers [DecidableEq κ] (s : Store κ α) : List (Op κ α) → List (Answer α)
  | [] => []
  | op :: ops => (s.perform op).2 :: (s.perform op).1.answers ops

def Table.answers [DecidableEq κ] (t : Table κ α) : List (Op κ α) → List (Answer α)
  | [] => []
  | op :: ops => (t.perform op).2 :: (t.perform op).1.answers ops

def Store.after [DecidableEq κ] (s : Store κ α) (ops : List (Op κ α)) : Store κ α :=
  ops.foldl (fun s op => (s.perform op).1) s

def Table.after [DecidableEq κ] (t : Table κ α) (ops : List (Op κ α)) : Table κ α :=
  ops.foldl (fun t op => (t.perform op).1) t

theorem Store.after_push [DecidableEq κ] (s : Store κ α) (ops : List (Op κ α)) (op : Op κ α) :
    s.after (ops ++ [op]) = ((s.after ops).perform op).1 := List.foldl_append

theorem Table.after_push [DecidableEq κ] (t : Table κ α) (ops : List (Op κ α)) (op : Op κ α) :
    t.after (ops ++ [op]) = ((t.after ops).perform op).1 := List.foldl_append

-- Each place of a store is one of the table's, and its slot is made and has the result in it.
structure Shows (s : Store κ α) (t : Table κ α) : Prop where
  places : s.slots.map (fun place => (place.1,s.entry? place.2)) =
    t.entries.map fun place => (place.1,some place.2)
  made : ∀ place ∈ s.slots, place.2 < s.cells.length

namespace Shows

variable {s : Store κ α} {t : Table κ α}

theorem empty : Shows (Store.empty : Store κ α) .empty := ⟨rfl,nofun⟩

theorem slot? (shows : Shows s t) (key : Key) : (s.slot? key).map s.entry? = (t.find? key).map some := by
  rw [Store.slot?,Table.find?,← lookup_map,← lookup_map,shows.places]

theorem find? (shows : Shows s t) (key : Key) : s.find? key = t.find? key := by
  have same := shows.slot? key
  unfold Store.find?
  cases leads : s.slot? key with
  | none =>
    rw [leads] at same
    cases found : t.find? key with
    | none => rfl
    | some entry => rw [found] at same; cases same
  | some slot =>
    rw [leads] at same
    cases found : t.find? key with
    | none => rw [found] at same; cases same
    | some entry => rw [found] at same; exact Option.some.inj same

-- Places are dropped here as there.
theorem keep (shows : Shows s t) (kept : Key → Bool) :
    Shows { s with slots := s.slots.filter fun place => kept place.1 } (t.keep kept) := by
  constructor
  · have filtered := congrArg (List.filter fun place => kept place.1) shows.places
    rw [List.filter_map,List.filter_map] at filtered
    exact filtered
  · intro place member
    exact shows.made place (List.mem_filter.mp member).1

theorem keys (shows : Shows s t) : s.slots.map Prod.fst = t.entries.map Prod.fst := by
  have firsts := congrArg (List.map Prod.fst) shows.places
  rwa [List.map_map,List.map_map] at firsts

theorem entryCount (shows : Shows s t) : s.entryCount = t.size := by
  have filled := congrArg (List.countP fun place => place.2.isSome) shows.places
  rw [List.countP_map,List.countP_map] at filled
  rw [Store.entryCount,← List.countP_eq_length_filter]
  exact filled.trans (congrFun List.countP_true t.entries)

end Shows

section Alone

variable [DecidableEq κ] {s s₁ s₂ s₃ : Store κ α} {r : Request κ} {phase p₁ p₂ : Phase α}

theorem run_start (s : Store κ α) (r : Request κ) (rest : List (Action κ α)) :
    (Machine.ofStore s).run (.start r :: rest) = Machine.run ⟨s,[⟨r,.starting⟩]⟩ rest := rfl

theorem computations_start (s : Store κ α) (r : Request κ) (rest : List (Action κ α)) :
    (Machine.ofStore s).computations (.start r :: rest) =
      Machine.computations ⟨s,[⟨r,.starting⟩]⟩ rest := Nat.zero_add _

theorem step_alone (moved : s.advance 0 r phase = (s₁,p₁)) :
    Machine.act ⟨s,[⟨r,phase⟩]⟩ (.step 0) = ⟨s₁,[⟨r,p₁⟩]⟩ := by
  have found : Machine.At ⟨s,[⟨r,phase⟩]⟩ 0 r phase := rfl
  have stepped := Machine.step_eq found
  rw [moved] at stepped
  exact stepped

theorem computations_step (moved : s.advance 0 r phase = (s₁,p₁)) (rest : List (Action κ α)) :
    Machine.computations ⟨s,[⟨r,phase⟩]⟩ (.step 0 :: rest) =
      (if !phase.isComputing && p₁.isComputing then 1 else 0) +
        Machine.computations ⟨s₁,[⟨r,p₁⟩]⟩ rest := by
  have stepped := step_alone moved
  rw [Machine.computations,stepped,Machine.begins]
  rw [Machine.act] at stepped
  rw [stepped]
  rfl

theorem run_step (moved : s.advance 0 r phase = (s₁,p₁)) (rest : List (Action κ α)) :
    Machine.run ⟨s,[⟨r,phase⟩]⟩ (.step 0 :: rest) = Machine.run ⟨s₁,[⟨r,p₁⟩]⟩ rest :=
  congrArg (Machine.run · rest) (step_alone moved)

theorem run_ended (s : Store κ α) (r : Request κ) (place : Option Nat) (outcome : Except Error α) :
    Machine.run ⟨s,[⟨r,.ended place outcome⟩]⟩ [.step 0,.step 0] =
      ⟨s.settle r place outcome,[⟨r,.done true outcome⟩]⟩ := by
  cases place <;> cases outcome <;> rw [run_step rfl,run_step rfl] <;> rfl

theorem computations_ended (s : Store κ α) (r : Request κ) (place : Option Nat)
    (outcome : Except Error α) :
    Machine.computations ⟨s,[⟨r,.ended place outcome⟩]⟩ [.step 0,.step 0] = 0 := by
  cases place <;> cases outcome <;> rw [computations_step rfl,computations_step rfl] <;> rfl

-- The three steps with which a call finds what it asks for, or begins to compute it.
structure Enters (s : Store κ α) (r : Request κ) (after : Store κ α) (next : Phase α) : Prop where
  steps : ∃ s₁ p₁ s₂ p₂, s.advance 0 r .starting = (s₁,p₁) ∧ s₁.advance 0 r p₁ = (s₂,p₂) ∧
    s₂.advance 0 r p₂ = (after,next) ∧ p₁.isComputing = false

namespace Enters

theorem enter (enters : Enters s r s₁ p₁) : s.enter r = (s₁,p₁) := by
  obtain ⟨t₁,q₁,t₂,q₂,first,second,third,_⟩ := enters.steps
  rw [Store.enter,first]
  simp only [second,third]

theorem getOrCompute_done (enters : Enters s r s₁ (.done false result)) (outcome : Except Error α) :
    s.getOrCompute r outcome = (s₁,false,result) := by
  rw [Store.getOrCompute,enters.enter]

theorem getOrCompute_computing (enters : Enters s r s₁ (.computing place)) (outcome : Except Error α) :
    s.getOrCompute r outcome = (s₁.settle r place outcome,true,outcome) := by
  rw [Store.getOrCompute,enters.enter]

-- What comes of a lone call that computes, and of one that does not.
theorem run_alone_computing (enters : Enters s r s₁ (.computing place)) (outcome : Except Error α) :
    (Machine.ofStore s).computations (Machine.alone r outcome) = 1 ∧
      (Machine.ofStore s).run (Machine.alone r outcome) =
        ⟨s₁.settle r place outcome,[⟨r,.done true outcome⟩]⟩ := by
  obtain ⟨t₁,q₁,t₂,q₂,first,second,third,idle⟩ := enters.steps
  constructor
  · rw [Machine.alone,computations_start,computations_step first,computations_step second,
      computations_step third,idle]
    have last : Machine.computations ⟨s₁,[⟨r,.computing place⟩]⟩ [.finish 0 outcome,.step 0,.step 0] =
      0 + Machine.computations ⟨s₁,[⟨r,.ended place outcome⟩]⟩ [.step 0,.step 0] := rfl
    rw [last,computations_ended]
    cases q₂.isComputing <;> rfl
  · rw [Machine.alone,run_start,run_step first,run_step second,run_step third]
    exact run_ended s₁ r place outcome

theorem run_alone_done (enters : Enters s r s₁ (.done false result)) (outcome : Except Error α) :
    (Machine.ofStore s).computations (Machine.alone r outcome) = 0 ∧
      (Machine.ofStore s).run (Machine.alone r outcome) = ⟨s₁,[⟨r,.done false result⟩]⟩ := by
  obtain ⟨t₁,q₁,t₂,q₂,first,second,third,idle⟩ := enters.steps
  have resting : q₂.isComputing = false := by
    cases q₂ with
    | computing place => cases third
    | _ => rfl
  constructor
  · rw [Machine.alone,computations_start,computations_step first,computations_step second,
      computations_step third,idle,resting]
    rfl
  · rw [Machine.alone,run_start,run_step first,run_step second,run_step third]
    rfl

theorem hit (leads : s.slot? r.key = some slot) (filled : s.entry? slot = some entry)
    (same : entry.kind = r.kind) : Enters s r s.countHit (.done false (.ok entry.value)) :=
  ⟨s,.found slot,s.countHit,_,Store.advance_led leads,Store.advance_same filled same,rfl,rfl⟩

theorem clash (leads : s.slot? r.key = some slot) (filled : s.entry? slot = some entry)
    (other : entry.kind ≠ r.kind) : Enters s r s.countMiss (.computing none) :=
  ⟨s,.found slot,s.countMiss,_,Store.advance_led leads,Store.advance_other filled other,rfl,rfl⟩

theorem miss (unled : s.slot? r.key = none) :
    Enters s r (s.newSlot r.key ⟨none,some 0,[]⟩) (.computing (some s.cells.length)) := by
  obtain ⟨looks,finds,enters⟩ := Store.advance_unled 0 unled
  exact ⟨_,_,_,_,looks,finds,enters,rfl⟩

end Enters

end Alone

theorem length_sub_kept (places : List β) (gone : β → Bool) :
    places.length - (places.filter fun place => !gone place).length = places.countP gone := by
  have both := List.length_eq_countP_add_countP gone (l := places)
  have rest : (fun place => decide ¬gone place = true) = fun place => !gone place := by
    funext place
    cases gone place <;> rfl
  rw [rest,List.countP_eq_length_filter (p := fun place => !gone place)] at both
  omega

theorem Store.invalidate_eq (s : Store κ α) (model : Option String) : s.invalidate model =
    ({ s with slots := s.slots.filter fun place => !covers model place.1 },
      s.slots.countP fun place => covers model place.1) := by
  have kept : (s.invalidate model).1 =
      { s with slots := s.slots.filter fun place => !covers model place.1 } := by
    cases model with
    | none => simp [Store.invalidate,covers]
    | some name => simp [Store.invalidate,covers]
  have removed : (s.invalidate model).2 = s.slots.length - (s.invalidate model).1.slots.length := rfl
  rw [← length_sub_kept s.slots fun place => covers model place.1]
  rw [kept] at removed
  exact Prod.ext kept removed

namespace Shows

variable {s store : Store κ α} {t : Table κ α}

-- New cells do not show until places lead to them.
theorem more_cells (shows : Shows s t) (slots : store.slots = s.slots)
    (kept : ∀ slot, slot < s.cells.length → store.entry? slot = s.entry? slot)
    (grown : s.cells.length ≤ store.cells.length) : Shows store t := by
  constructor
  · rw [← shows.places,slots]
    exact List.map_congr_left fun place member => by rw [kept place.2 (shows.made place member)]
  · rw [slots]
    exact fun place member => Nat.lt_of_lt_of_le (shows.made place member) grown

theorem insert (shows : Shows s t) (key : Key) (entry : Entry κ α) :
    Shows (s.newSlot key ⟨some entry,none,[]⟩) (t.insert key entry) := by
  have others : Shows { s.newSlot key ⟨some entry,none,[]⟩ with slots := s.slots.filter (·.1 ≠ key) }
      (t.keep (· ≠ key)) :=
    (shows.keep (· ≠ key)).more_cells rfl
      (fun slot made => congrArg Cell.entry (s.cell_newSlot key ⟨some entry,none,[]⟩ made))
      (by simp [Store.newSlot])
  have own : Store.entry? (s.newSlot key ⟨some entry,none,[]⟩) s.cells.length = some entry :=
    congrArg Cell.entry (s.cell_newSlot_self key ⟨some entry,none,[]⟩)
  constructor
  · have last : [(key,s.cells.length)].map (fun place =>
        (place.1,Store.entry? (s.newSlot key ⟨some entry,none,[]⟩) place.2)) = [(key,some entry)] := by
      rw [List.map_singleton,own]
    change (s.slots.filter (·.1 ≠ key) ++ [(key,s.cells.length)]).map _ =
      (t.entries.filter (·.1 ≠ key) ++ [(key,entry)]).map _
    rw [List.map_append,List.map_append,last]
    exact congrArg (· ++ _) others.places
  · intro place member
    rcases List.mem_append.mp member with old | new
    · exact others.made place old
    · cases List.mem_singleton.mp new
      simp [Store.newSlot]

theorem invalidate (shows : Shows s t) (model : Option String) :
    Shows (s.invalidate model).1 (t.keep fun key => !covers model key) ∧
      (s.invalidate model).2 = t.entries.countP fun place => covers model place.1 := by
  have counted := congrArg (List.countP (covers model)) shows.keys
  rw [List.countP_map,List.countP_map] at counted
  rw [Store.invalidate_eq]
  exact ⟨shows.keep fun key => !covers model key,counted⟩

theorem countMiss (shows : Shows s t) : Shows s.countMiss t := ⟨shows.places,shows.made⟩

-- A slot that a call made and gave up again does not show.
theorem given_up (shows : Shows s t) (unled : s.slot? key = none) :
    Shows ((s.newSlot key .empty).countMiss.discardEmpty key s.cells.length) t := by
  have leads : (s.newSlot key .empty).countMiss.slot? key = some s.cells.length :=
    (s.slot?_newSlot key key .empty).trans (if_pos rfl)
  have empty : (s.newSlot key .empty).countMiss.entry? s.cells.length = none :=
    congrArg Cell.entry (s.cell_newSlot_self key .empty)
  rw [Store.discardEmpty,if_pos ⟨leads,by rw [empty]; rfl⟩]
  refine shows.more_cells ?_ (fun slot made => congrArg Cell.entry (s.cell_newSlot key .empty made))
    (by simp [Store.newSlot,Store.countMiss])
  change (s.slots.filter (·.1 ≠ key) ++ [(key,s.cells.length)]).filter (·.1 ≠ key) = s.slots
  rw [List.filter_append,without_absent unled,without_absent unled]
  simp

section Settling

variable [DecidableEq κ] {r : Request κ}

-- What comes of a computation for a slot that was made for it.
theorem settle_made (shows : Shows s t) (unled : s.slot? r.key = none) (outcome : Except Error α) :
    Shows ((s.newSlot r.key ⟨none,some 0,[]⟩).settle r (some s.cells.length) outcome)
      (t.compute r outcome) := by
  cases outcome with
  | ok v =>
    have filled : (s.newSlot r.key ⟨none,some 0,[]⟩).fill s.cells.length ⟨r.kind,v⟩ =
        s.newSlot r.key ⟨some ⟨r.kind,v⟩,none,[]⟩ := s.setCell_newSlot _ _ _
    change Shows ((s.newSlot r.key ⟨none,some 0,[]⟩).fill s.cells.length ⟨r.kind,v⟩).countMiss _
    rw [filled]
    exact (shows.insert r.key ⟨r.kind,v⟩).countMiss
  | error e =>
    have passed : (s.newSlot r.key ⟨none,some 0,[]⟩).passOn s.cells.length =
        s.newSlot r.key .empty := by
      rw [Store.passOn,Store.cell_newSlot_self,Store.setCell_newSlot]
      rfl
    change Shows (((s.newSlot r.key ⟨none,some 0,[]⟩).passOn s.cells.length).countMiss.discardEmpty
      r.key s.cells.length) t
    rw [passed]
    exact shows.given_up unled

-- What comes of one that replaces a result of another kind.
theorem settle_other (shows : Shows s t) (outcome : Except Error α) :
    Shows (s.countMiss.settle r none outcome) (t.compute r outcome) := by
  cases outcome with
  | ok v => exact shows.countMiss.insert r.key ⟨r.kind,v⟩
  | error e => exact shows.countMiss

-- A call finds what the table has of its kind. If there is none it computes, and the store shows
-- then what came of that.
theorem enters (shows : Shows s t) (r : Request κ) :
    (∃ entry, t.find? r.key = some entry ∧ entry.kind = r.kind ∧
      Enters s r s.countHit (.done false (.ok entry.value))) ∨
    (∀ entry, t.find? r.key = some entry → entry.kind ≠ r.kind) ∧ ∃ after place,
      Enters s r after (.computing place) ∧
        ∀ outcome, Shows (after.settle r place outcome) (t.compute r outcome) := by
  have same := shows.slot? r.key
  cases leads : s.slot? r.key with
  | none =>
    rw [leads] at same
    have absent : t.find? r.key = none := Option.map_eq_none_iff.mp same.symm
    exact .inr ⟨by simp [absent],_,_,.miss leads,shows.settle_made leads⟩
  | some slot =>
    rw [leads] at same
    obtain ⟨entry,found,filled⟩ := Option.map_eq_some_iff.mp same.symm
    by_cases kind : entry.kind = r.kind
    · exact .inl ⟨entry,found,kind,.hit leads filled.symm kind⟩
    · refine .inr ⟨?_,_,_,.clash leads filled.symm kind,shows.settle_other⟩
      intro other theirs
      cases found.symm.trans theirs
      exact kind

end Settling

-- What a call that runs alone comes to, step by step, is what it is said to come to as a whole.
theorem alone (shows : Shows s t) [DecidableEq κ] (r : Request κ) (outcome : Except Error α) :
    (Machine.ofStore s).run (Machine.alone r outcome) = ⟨(s.getOrCompute r outcome).1,
      [⟨r,.done (s.getOrCompute r outcome).2.1 (s.getOrCompute r outcome).2.2⟩]⟩ := by
  rcases shows.enters r with ⟨entry,_,_,enters⟩ | ⟨_,after,place,enters,_⟩
  · rw [enters.getOrCompute_done outcome]
    exact (enters.run_alone_done outcome).2
  · rw [enters.getOrCompute_computing outcome]
    exact (enters.run_alone_computing outcome).2

theorem call (shows : Shows s t) [DecidableEq κ] (r : Request κ) (outcome : Except Error α) :
    (s.perform (.call r outcome)).2 = (t.perform (.call r outcome)).2 ∧
      Shows (s.perform (.call r outcome)).1 (t.perform (.call r outcome)).1 := by
  rcases shows.enters r with ⟨entry,holds,kind,enters⟩ | ⟨other,after,place,enters,settles⟩
  · rw [Store.perform,enters.getOrCompute_done outcome,(enters.run_alone_done outcome).1,Table.perform_found holds kind outcome]
    exact ⟨rfl,shows.places,shows.made⟩
  · rw [Store.perform,enters.getOrCompute_computing outcome,(enters.run_alone_computing outcome).1,
      Table.perform_computed other outcome]
    exact ⟨rfl,settles outcome⟩

theorem perform (shows : Shows s t) [DecidableEq κ] (op : Op κ α) :
    (s.perform op).2 = (t.perform op).2 ∧ Shows (s.perform op).1 (t.perform op).1 := by
  cases op with
  | call r outcome => exact shows.call r outcome
  | invalidate model =>
    obtain ⟨after,removed⟩ := shows.invalidate model
    exact ⟨congrArg Answer.removed removed,after⟩
  | contains key =>
    have holds : s.contains key = (t.find? key).isSome := congrArg Option.isSome (shows.find? key)
    exact ⟨congrArg Answer.holds holds,shows⟩
  | entryCount => exact ⟨congrArg Answer.entries shows.entryCount,shows⟩

theorem after (shows : Shows s t) [DecidableEq κ] (ops : List (Op κ α)) :
    Shows (s.after ops) (t.after ops) := by
  induction ops generalizing s t with
  | nil => exact shows
  | cons op ops ih => exact ih (shows.perform op).2

theorem answers (shows : Shows s t) [DecidableEq κ] (ops : List (Op κ α)) :
    s.answers ops = t.answers ops := by
  induction ops generalizing s t with
  | nil => rfl
  | cons op ops ih =>
    obtain ⟨same,after⟩ := shows.perform op
    rw [Store.answers,Table.answers,same,ih after]

end Shows

end DataAccess.Cache
