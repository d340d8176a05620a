import DataAccess.Proofs.Session.Together

-- What calls get that make one query together. Those that find a result have it; of the others one
-- fetches at a time until there is a result for all.
namespace DataAccess
open Cache

namespace Backend

-- What a fetch gets when so many were sent before it.
def fetchAfter (b : Backend) (type : RecordType σ) (s : Statement) (n : Nat) : Except Error (List σ) :=
  Backend.fetch { b with replies := b.replies.drop n } type s

-- What so many fetches get one after another, of which the first has so many before it.
def fetches (b : Backend) (type : RecordType σ) (s : Statement) (first n : Nat) :
    List (Except Error (List σ)) := (List.range' first n).map (b.fetchAfter type s)

theorem fetches_succ (b : Backend) (type : RecordType σ) (s : Statement) (first n : Nat) :
    b.fetches type s first (n + 1) = b.fetchAfter type s first :: b.fetches type s (first + 1) n := rfl

theorem length_fetches (b : Backend) (type : RecordType σ) (s : Statement) (first n : Nat) :
    (b.fetches type s first n).length = n := by
  rw [fetches,List.length_map,List.length_range']

-- One backend after another: a statement was sent so many times, if connections are lent.
structure Spent (s : Statement) (b : Backend) (n : Nat) (c : Backend) : Prop where
  availability : c.availability = b.availability
  replies : b.availability.refusal? = none → c.replies = b.replies.drop n
  sent : c.sent = b.sent ++ if b.availability.refusal? = none then
    List.replicate n (.rows,s.sql,s.params.toList) else []

theorem Spent.refl (s : Statement) (b : Backend) : Spent s b 0 b := by
  refine ⟨rfl,fun _ => rfl,?_⟩
  split <;> exact (List.append_nil _).symm

theorem Spent.note {b c : Backend} (spent : Spent s b n c) (event? : Option Event) :
    Spent s b n (c.note event?) := by
  cases event? with
  | none => exact spent
  | some event => exact ⟨spent.availability,spent.replies,(log_sent c event).trans spent.sent⟩

theorem Spent.perform {b c : Backend} (spent : Spent s b n c) :
    Spent s b (n + 1) (c.perform s .rows).2 := by
  cases lent : b.availability.refusal? with
  | some e =>
    have denied : c.availability.refusal? = some e := by rw [spent.availability,lent]
    have same := spent.sent
    rw [perform_denied denied]
    refine ⟨spent.availability,fun ready => ?_,(log_sent c _).trans ?_⟩
    · cases lent.symm.trans ready
    · rw [lent,if_neg nofun] at same ⊢
      exact same
  | none =>
    have ready : c.availability.refusal? = none := by rw [spent.availability,lent]
    have grown := (perform_ready ready s .rows).2
    have same := spent.sent
    refine ⟨grown.availability.trans spent.availability,fun _ => ?_,?_⟩
    · rw [grown.replies,spent.replies lent,List.drop_drop]
    · rw [perform_sent,ready,if_pos rfl,same,lent,if_pos rfl,if_pos rfl,List.append_assoc,
        List.replicate_succ']

theorem Spent.fetch {b c : Backend} (spent : Spent s b n c) (type : RecordType σ) :
    c.fetch type s = b.fetchAfter type s n := by
  have answered : (c.perform s .rows).1 =
      (Backend.perform { b with replies := b.replies.drop n } s .rows).1 := by
    cases lent : b.availability.refusal? with
    | some e =>
      have denied : c.availability.refusal? = some e := by rw [spent.availability,lent]
      rw [perform_denied denied,perform_denied (b := { b with replies := b.replies.drop n }) lent]
    | none =>
      have ready : c.availability.refusal? = none := by rw [spent.availability,lent]
      rw [(perform_ready ready s .rows).1,
        (perform_ready (b := { b with replies := b.replies.drop n }) lent s .rows).1,
        spent.replies lent]
  rw [fetchAfter,Backend.fetch,Backend.fetch,answered]

end Backend

-- The answers of calls that want one thing and get these results one after another, until there is
-- one for all.
def shared : List (Except ε α) → List (Except ε α)
  | [] => []
  | .ok v :: rest => .ok v :: rest.map fun _ => .ok v
  | .error e :: rest => .error e :: shared rest

-- How many of the results that takes.
def needed : List (Except ε α) → Nat
  | [] => 0
  | .ok _ :: _ => 1
  | .error _ :: rest => needed rest + 1

theorem length_shared (results : List (Except ε α)) : (shared results).length = results.length := by
  induction results with
  | nil => rfl
  | cons result rest ih =>
    cases result with
    | ok v => simp [shared]
    | error e => simp [shared,ih]

namespace Cache

-- The answers of calls of one request that begin together, and how many of these results they take.
def Table.together (t : Table κ α) [DecidableEq κ] (r : Request κ) (results : List (Except Error α)) :
    List (Except Error α) × Nat :=
  match t.find? r.key with
  | none => (shared results,needed results)
  | some entry =>
    if entry.kind = r.kind then (results.map fun _ => .ok entry.value,0) else (results,results.length)

theorem Table.length_together (t : Table κ α) [DecidableEq κ] (r : Request κ)
    (results : List (Except Error α)) : (t.together r results).1.length = results.length := by
  unfold Table.together
  cases t.find? r.key with
  | none => exact length_shared results
  | some entry =>
    by_cases same : entry.kind = r.kind
    · simp only [if_pos same,List.length_map]
    · simp only [if_neg same]

end Cache

section Turns

variable {type : RecordType ρ} {s : Statement} {r : Request String} {calls : List (Call String (List ρ))}
  {before after : List (Call String (List ρ))} {phase next : Phase (List ρ)}
  {store : Store String (List ρ)} {db : Db ρ}

theorem Db.turn_here (type : RecordType ρ) (s : Statement) (c : Backend)
    (steps : store.steps before.length r 6 phase = (kept,next)) (other : phase.isComputing = false)
    (after : List (Call String (List ρ))) :
    Db.takeTurn type s (before ++ ⟨r,phase⟩ :: after) before.length ⟨c,store⟩ =
      (before ++ ⟨r,next⟩ :: after,⟨c.note (turnEvent? type.model phase next),kept⟩) := by
  rw [Db.takeTurn_goes Machine.at_here other,Machine.proceed,Machine.run_here 6,steps,Db.afterTurn]
  simp

-- Only the end of a computation sends something.
theorem Db.turn_spent (type : RecordType ρ) (spent : Backend.Spent s b n c)
    (steps : store.steps before.length r 6 phase = (kept,next)) (other : phase.isComputing = false)
    (after : List (Call String (List ρ))) : ∃ d, Backend.Spent s b n d ∧
      Db.takeTurn type s (before ++ ⟨r,phase⟩ :: after) before.length ⟨c,store⟩ =
        (before ++ ⟨r,next⟩ :: after,⟨d,kept⟩) :=
  ⟨_,spent.note _,Db.turn_here type s c steps other after⟩

theorem Db.turn_fetches (spent : Backend.Spent s b n db.backend)
    (steps : db.store.steps before.length r 6 (.ended place (b.fetchAfter type s n)) = (store,next))
    (after : List (Call String (List ρ))) : ∃ c, Backend.Spent s b (n + 1) c ∧
      Db.takeTurn type s (before ++ ⟨r,.computing place⟩ :: after) before.length db =
        (before ++ ⟨r,next⟩ :: after,⟨c,store⟩) := by
  rw [← spent.fetch type] at steps
  refine ⟨_,spent.perform.note (turnEvent? type.model (.computing place) next),?_⟩
  rw [Db.takeTurn_ends Machine.at_here,Machine.turn_here,steps,Db.afterTurn]
  simp

theorem turnEvent?_same (model : String) (phase : Phase α) : turnEvent? model phase phase = none := by
  cases phase with
  | computing place => cases place <;> rfl
  | _ => rfl

-- A turn in which nothing happens.
theorem Db.turn_stays (found : calls[call]? = some ⟨r,phase⟩) (other : phase.isComputing = false)
    (stays : db.store.advance call r phase = (db.store,phase)) :
    Db.takeTurn type s calls call db = (calls,db) := by
  obtain ⟨inside,own⟩ := List.getElem?_eq_some_iff.mp found
  have split : calls = calls.take call ++ ⟨r,phase⟩ :: calls.drop (call + 1) := by
    rw [← own,List.getElem_cons_drop,List.take_append_drop]
  have here : (calls.take call).length = call := List.length_take_of_le (Nat.le_of_lt inside)
  have steps : db.store.steps (calls.take call).length r 6 phase = (db.store,phase) := by
    rw [here]
    exact Store.steps_stay stays 6
  have turned := Db.turn_here type s db.backend steps other (calls.drop (call + 1))
  rw [← split,here,turnEvent?_same] at turned
  exact turned

-- Turns of calls in this order.
def Db.turns (type : RecordType ρ) (s : Statement) (order : List Nat)
    (calls : List (Call String (List ρ))) (db : Db ρ) : List (Call String (List ρ)) × Db ρ :=
  order.foldlM (Db.takeTurn type s) calls db

theorem Db.turns_cons (call : Nat) (order : List Nat) : Db.turns type s (call :: order) calls db =
    Db.turns type s order (Db.takeTurn type s calls call db).1 (Db.takeTurn type s calls call db).2 :=
  rfl

theorem Db.turns_append (first second : List Nat) : Db.turns type s (first ++ second) calls db =
    Db.turns type s second (Db.turns type s first calls db).1 (Db.turns type s first calls db).2 := by
  induction first generalizing calls db with
  | nil => rfl
  | cons call first ih =>
    rw [List.cons_append,Db.turns_cons,Db.turns_cons]
    exact ih

theorem Db.turns_stay (stay : ∀ call ∈ order, Db.takeTurn type s calls call db = (calls,db)) :
    Db.turns type s order calls db = (calls,db) := by
  induction order with
  | nil => rfl
  | cons call order ih =>
    rw [Db.turns_cons,stay call (by simp)]
    exact ih fun later member => stay later (by simp [member])

-- A turn of this call keeps what holds of the calls before it, with that call among them.
def Db.TurnKeeps (type : RecordType ρ) (s : Statement) (c : Call String (List ρ))
    (P : Nat → List (Call String (List ρ)) → Db ρ → Prop) : Prop :=
  ∀ i before after db, P i before db → ∃ next db',
    Db.takeTurn type s (before ++ c :: after) before.length db = (before ++ next :: after,db') ∧
      P (i + 1) (before ++ [next]) db'

-- Turns of calls that are all alike, one after another.
theorem Db.turns_alike {P : Nat → List (Call String (List ρ)) → Db ρ → Prop} {c : Call String (List ρ)}
    (each : Db.TurnKeeps type s c P) (n : Nat) (holds : P i before db) : ∃ ended db',
      Db.turns type s (List.range' before.length n) (before ++ List.replicate n c) db = (ended,db') ∧
        P (i + n) ended db' := by
  induction n generalizing i before db with
  | zero => exact ⟨before,db,by rw [List.replicate_zero,List.append_nil]; rfl,holds⟩
  | succ n ih =>
    obtain ⟨next,db',turned,further⟩ := each i before (List.replicate n c) db holds
    have rest := ih further
    rw [List.length_append,List.length_singleton,← List.append_cons,Nat.add_right_comm] at rest
    rw [List.range'_succ,Db.turns_cons,List.replicate_succ,turned]
    exact rest

theorem Db.takeRounds_goes (rounds : Nat) (goes : (Machine.mk db.store calls).isDone = false)
    (turned : Db.turns type s (List.range calls.length) calls db = (ended,db')) :
    Db.takeRounds type s (rounds + 1) calls db = Db.takeRounds type s rounds ended db' := by
  rw [Db.takeRounds_succ,goes]
  unfold Db.turns at turned
  rw [turned]
  rfl

end Turns

-- All calls have these answers, and so many of their fetches were sent.
structure Answered (s : Statement) (b : Backend) (answers : List (Except Error (List ρ))) (n : Nat)
    (ran : List (Call String (List ρ)) × Db ρ) : Prop where
  answers : ran.1.map (fun c => c.phase.answer?) = answers.map some
  spent : Backend.Spent s b n ran.2.backend

-- Calls in a line for an empty slot: some have returned, the next one computes, and so many wait.
def lineUp (r : Request κ) (slot : Nat) (ended : List (Call κ α)) (n : Nat) : List (Call κ α) :=
  ended ++ ⟨r,.computing (some slot)⟩ :: List.replicate n ⟨r,.waiting slot⟩

structure Line (s : Statement) (b : Backend) (slot : Nat) (ended : List (Call String (List ρ)))
    (answers : List (Except Error (List ρ))) (n : Nat) (db : Db ρ) : Prop where
  returned : ended.map (fun c => c.phase.answer?) = answers.map some
  made : slot < db.store.cells.length
  cell : db.store.cell slot = ⟨none,some ended.length,List.range' (ended.length + 1) n⟩
  spent : Backend.Spent s b ended.length db.backend

-- So many calls have come to this phase behind the others, in a store of this kind, and nothing was
-- sent for it.
structure Reached (r : Request String) (next : Phase (List ρ)) (Q : Store String (List ρ) → Prop)
    (s : Statement) (b : Backend) (k : Nat) (before : List (Call String (List ρ))) (i : Nat)
    (calls : List (Call String (List ρ))) (db : Db ρ) : Prop where
  shape : calls = before ++ List.replicate i ⟨r,next⟩
  holds : Q db.store
  spent : Backend.Spent s b k db.backend

-- The line that forms in the first round: one call computes, and so many have come behind it.
structure Forming (r : Request String) (s : Statement) (b : Backend) (slot i : Nat)
    (calls : List (Call String (List ρ))) (db : Db ρ) : Prop where
  shape : calls = lineUp r slot [] i
  leads : db.store.slot? r.key = some slot
  line : Line s b slot [] [] i db

section Rounds

variable {type : RecordType ρ} {s : Statement} {r : Request String} {b : Backend}
  {calls : List (Call String (List ρ))} {store : Store String (List ρ)} {next : Phase (List ρ)}
  {db : Db ρ} {answers : List (Except Error (List ρ))}

theorem Answered.isDone (answered : Answered s b answers n (calls,db)) :
    (Machine.mk db.store calls).isDone = true := by
  refine List.all_eq_true.mpr fun c member => ?_
  have inside : c.phase.answer? ∈ answers.map some := by
    rw [← answered.answers]
    exact List.mem_map_of_mem member
  obtain ⟨r,phase⟩ := c
  obtain ⟨answer,_,given⟩ := List.mem_map.mp inside
  cases phase with
  | done computed result => rfl
  | _ => cases given

theorem Answered.takeRounds (answered : Answered s b answers n (calls,db)) (rounds : Nat) :
    Answered s b answers n (Db.takeRounds type s rounds calls db) := by
  cases rounds with
  | zero => exact answered
  | succ rounds =>
    rw [Db.takeRounds_succ,answered.isDone,if_pos rfl]
    exact answered

theorem isDone_of_unreturned (member : c ∈ calls) (unreturned : c.phase.isReturned = false) :
    (Machine.mk store calls).isDone = false := by
  refine Bool.eq_false_iff.mpr fun done => ?_
  have returned : c.phase.isReturned = true := List.all_eq_true.mp done c member
  cases unreturned.symm.trans returned

theorem takeTurn_answered (returned : ended.map (fun c => c.phase.answer?) = answers.map some)
    (inside : call < ended.length) (others : List (Call String (List ρ))) :
    Db.takeTurn type s (ended ++ others) call db = (ended ++ others,db) := by
  have found : (ended ++ others)[call]? = some ended[call] := by
    rw [List.getElem?_append_left inside,List.getElem?_eq_getElem]
  have answered : ended[call].phase.answer? ∈ answers.map some := by
    rw [← returned]
    exact List.mem_map_of_mem (List.getElem_mem inside)
  generalize ended[call] = c at found answered
  obtain ⟨r,phase⟩ := c
  obtain ⟨answer,_,given⟩ := List.mem_map.mp answered
  cases phase with
  | done computed result => exact Db.turn_stays found rfl rfl
  | _ => cases given

-- In a round the calls that have returned rest, and the computation of the next one ends.
theorem Line.turns_first (line : Line s b slot ended answers n db)
    (steps : db.store.steps ended.length r 6
      (.ended (some slot) (b.fetchAfter type s ended.length)) = (store,next)) :
    ∃ c, Backend.Spent s b (ended.length + 1) c ∧
      Db.turns type s (List.range (lineUp r slot ended n).length) (lineUp r slot ended n) db =
        Db.turns type s (List.range' (ended.length + 1) n)
          (ended ++ ⟨r,next⟩ :: List.replicate n ⟨r,.waiting slot⟩) ⟨c,store⟩ := by
  have order : List.range (lineUp r slot ended n).length =
      List.range' 0 ended.length ++ ended.length :: List.range' (ended.length + 1) n := by
    rw [lineUp,List.range_eq_range',List.length_append,List.length_cons,List.length_replicate,
      ← List.range'_append,← List.range'_succ]
    simp
  have rest : ∀ call ∈ List.range' 0 ended.length,
      Db.takeTurn type s (lineUp r slot ended n) call db = (lineUp r slot ended n,db) := by
    intro call member
    exact takeTurn_answered line.returned (by simpa using member) _
  obtain ⟨c,spent,turned⟩ := Db.turn_fetches line.spent steps (List.replicate n ⟨r,.waiting slot⟩)
  refine ⟨c,spent,?_⟩
  rw [order,Db.turns_append,Db.turns_stay rest,Db.turns_cons,lineUp,turned]

-- Turns of calls that come from one phase to another, whatever stores they meet on the way.
theorem Db.turns_same (type : RecordType ρ) {Q : Store String (List ρ) → Prop}
    (each : ∀ store call, Q store → ∃ after,
      Store.steps store call r 6 phase = (after,next) ∧ Q after) (other : phase.isComputing = false)
    (holds : Q store) (spent : Backend.Spent s b k c) (before : List (Call String (List ρ))) (n : Nat) :
    ∃ db', Backend.Spent s b k db'.backend ∧ Db.turns type s (List.range' before.length n)
      (before ++ List.replicate n ⟨r,phase⟩) ⟨c,store⟩ = (before ++ List.replicate n ⟨r,next⟩,db') := by
  have turn : Db.TurnKeeps type s ⟨r,phase⟩ (Reached r next Q s b k before) := by
    intro i ready after db ⟨shape,holds,spent⟩
    obtain ⟨store,steps,further⟩ := each db.store ready.length holds
    obtain ⟨c,spent',turned⟩ := Db.turn_spent type spent steps other after
    refine ⟨_,_,turned,?_,further,spent'⟩
    rw [shape,List.append_assoc,List.replicate_succ']
  have begun : Reached r next Q s b k before 0 before ⟨c,store⟩ :=
    ⟨(List.append_nil before).symm,holds,spent⟩
  obtain ⟨ended,db',turned,shape,_,spent'⟩ := Db.turns_alike turn n begun
  rw [shape,Nat.zero_add] at turned
  exact ⟨db',spent',turned⟩

theorem lineUp_goes (slot : Nat) (ended : List (Call String (List ρ))) (n : Nat) :
    (Machine.mk store (lineUp r slot ended n)).isDone = false := by
  have member : ⟨r,.computing (some slot)⟩ ∈ lineUp r slot ended n := by simp [lineUp]
  exact isDone_of_unreturned member rfl

-- A result is the answer of all that wait.
theorem Line.turns_result (line : Line s b slot ended answers n db)
    (fetched : b.fetchAfter type s ended.length = .ok v) : ∃ db',
    Db.turns type s (List.range (lineUp r slot ended n).length) (lineUp r slot ended n) db =
      (ended ++ ⟨r,.done true (.ok v)⟩ :: List.replicate n ⟨r,.done false (.ok v)⟩,db') ∧
    Backend.Spent s b (ended.length + 1) db'.backend := by
  have steps : db.store.steps ended.length r 6 (.ended (some slot) (b.fetchAfter type s ended.length)) =
      ((db.store.fill slot ⟨r.kind,v⟩).countMiss,.done true (.ok v)) := by
    rw [fetched,Store.steps_fill]
  obtain ⟨c,spent,turned⟩ := line.turns_first steps
  have filled : Store.entry? (db.store.fill slot ⟨r.kind,v⟩).countMiss slot = some ⟨r.kind,v⟩ :=
    congrArg Cell.entry (db.store.cell_setCell_self line.made _)
  have serves : ∀ store call, Store.entry? store slot = some ⟨r.kind,v⟩ → ∃ after,
      Store.steps store call r 6 (.waiting slot) = (after,.done false (.ok v)) ∧
        Store.entry? after slot = some ⟨r.kind,v⟩ :=
    fun store call filled => ⟨store.countHit,Store.steps_served filled,filled⟩
  obtain ⟨db',spent',served⟩ := Db.turns_same type serves rfl filled spent
    (ended ++ [⟨r,.done true (.ok v)⟩]) n
  rw [List.length_append,List.length_singleton,← List.append_cons,← List.append_cons] at served
  exact ⟨db',turned.trans served,spent'⟩

-- Who waits behind a computation rests.
theorem Line.takeTurn_behind (line : Line s b slot ended answers n db) :
    ∀ call ∈ List.range' (ended.length + 1) n,
      Db.takeTurn type s (lineUp r slot ended n) call db = (lineUp r slot ended n,db) := by
  intro call member
  obtain ⟨behind,inside⟩ := List.mem_range'_1.mp member
  obtain ⟨i,rfl⟩ := Nat.exists_eq_add_of_le behind
  have found : (lineUp r slot ended n)[ended.length + 1 + i]? = some ⟨r,.waiting slot⟩ := by
    rw [lineUp,Nat.add_assoc,List.getElem?_append_right (Nat.le_add_right _ _),Nat.add_sub_cancel_left,
      Nat.add_comm 1,List.getElem?_cons_succ,List.getElem?_replicate,if_pos (by omega)]
  exact Db.turn_stays found rfl (Store.advance_waiting line.cell (by omega))

-- When one fails, the next in the line computes.
theorem Line.turns_failure (line : Line s b slot ended answers (n + 1) db)
    (fetched : b.fetchAfter type s ended.length = .error e) : ∃ db',
    Db.turns type s (List.range (lineUp r slot ended (n + 1)).length) (lineUp r slot ended (n + 1)) db =
      (lineUp r slot (ended ++ [⟨r,.done true (.error e)⟩]) n,db') ∧
    Line s b slot (ended ++ [⟨r,.done true (.error e)⟩]) (answers ++ [.error e]) n db' := by
  let store := (db.store.passOn slot).countMiss.discardEmpty r.key slot
  have steps : db.store.steps ended.length r 6 (.ended (some slot) (b.fetchAfter type s ended.length)) =
      (store,.done true (.error e)) := by
    rw [fetched,Store.steps_fail]
  obtain ⟨c,spent,turned⟩ := line.turns_first steps
  have kept : store.cells.length = db.store.cells.length := by
    rw [Store.cells_discardEmpty]
    exact List.length_set
  have cell : store.cell slot = ⟨none,some (ended.length + 1),List.range' (ended.length + 1 + 1) n⟩ := by
    rw [Store.cell_discardEmpty]
    exact (db.store.cell_setCell_self line.made _).trans (by rw [line.cell]; rfl)
  rw [List.replicate_succ,List.append_cons,List.range'_succ,Db.turns_cons] at turned
  generalize ended' : ended ++ [⟨r,.done true (.error e)⟩] = more at turned
  have length : ended.length + 1 = more.length := by rw [← ended',List.length_append]; rfl
  have returned : more.map (fun c => c.phase.answer?) = (answers ++ [Except.error e]).map some := by
    rw [← ended',List.map_append,line.returned,List.map_append]
    rfl
  rw [length] at cell spent turned
  have granted : store.steps more.length r 6 (.waiting slot) = (store,.computing (some slot)) :=
    Store.steps_granted cell
  obtain ⟨d,spent',granted⟩ := Db.turn_spent type spent granted rfl
    (List.replicate n ⟨r,.waiting slot⟩)
  have line' : Line s b slot more (answers ++ [.error e]) n ⟨d,store⟩ :=
    ⟨returned,kept ▸ line.made,cell,spent'⟩
  rw [granted] at turned
  exact ⟨_,turned.trans (Db.turns_stay line'.takeTurn_behind),line'⟩

-- What the rounds come to when the computation that is under way gets a result.
theorem Line.takeRounds_result (line : Line s b slot ended answers n db)
    (fetched : b.fetchAfter type s ended.length = .ok v) (rounds : Nat) :
    Answered s b (answers ++ shared (b.fetches type s ended.length (n + 1)))
      (ended.length + needed (b.fetches type s ended.length (n + 1)))
      (Db.takeRounds type s (rounds + 1) (lineUp r slot ended n) db) := by
  obtain ⟨db',turned,spent⟩ := line.turns_result (r := r) fetched
  have answered : Answered s b (answers ++ shared (b.fetches type s ended.length (n + 1)))
      (ended.length + needed (b.fetches type s ended.length (n + 1)))
      (ended ++ ⟨r,.done true (.ok v)⟩ :: List.replicate n ⟨r,.done false (.ok v)⟩,db') := by
    rw [Backend.fetches_succ,fetched]
    refine ⟨?_,spent⟩
    rw [List.map_append,line.returned,List.map_append,shared]
    simp [Phase.answer?,List.map_const',Backend.length_fetches]
  rw [Db.takeRounds_goes rounds (lineUp_goes slot ended n) turned]
  exact answered.takeRounds rounds

-- What they come to when it fails and no call is left.
theorem Line.takeRounds_failure (line : Line s b slot ended answers 0 db)
    (fetched : b.fetchAfter type s ended.length = .error e) (rounds : Nat) :
    Answered s b (answers ++ [.error e]) (ended.length + 1)
      (Db.takeRounds type s (rounds + 1) (lineUp r slot ended 0) db) := by
  have steps : db.store.steps ended.length r 6 (.ended (some slot) (b.fetchAfter type s ended.length)) =
      ((db.store.passOn slot).countMiss.discardEmpty r.key slot,.done true (.error e)) := by
    rw [fetched,Store.steps_fail]
  obtain ⟨c,spent,turned⟩ := line.turns_first steps
  have answered : Answered s b (answers ++ [.error e]) (ended.length + 1)
      (ended ++ [⟨r,.done true (.error e)⟩],
        ⟨c,(db.store.passOn slot).countMiss.discardEmpty r.key slot⟩) := by
    refine ⟨?_,spent⟩
    rw [List.map_append,line.returned,List.map_append]
    rfl
  rw [Db.takeRounds_goes rounds (lineUp_goes slot ended 0) turned]
  exact answered.takeRounds rounds

-- The rounds that are left are enough for all to have an answer.
theorem Line.takeRounds_answered {n rounds : Nat} (line : Line s b slot ended answers n db) (type : RecordType ρ)
    (r : Request String) (enough : n < rounds) :
    Answered s b (answers ++ shared (b.fetches type s ended.length (n + 1)))
      (ended.length + needed (b.fetches type s ended.length (n + 1)))
      (Db.takeRounds type s rounds (lineUp r slot ended n) db) := by
  induction n generalizing ended answers db rounds with
  | zero =>
    obtain ⟨rounds,rfl⟩ := Nat.exists_eq_add_one.mpr enough
    cases fetched : b.fetchAfter type s ended.length with
    | ok v => exact line.takeRounds_result fetched rounds
    | error e =>
      rw [Backend.fetches_succ,fetched]
      exact line.takeRounds_failure fetched rounds
  | succ n ih =>
    obtain ⟨rounds,rfl⟩ := Nat.exists_eq_add_one.mpr (Nat.zero_lt_of_lt enough)
    cases fetched : b.fetchAfter type s ended.length with
    | ok v => exact line.takeRounds_result fetched rounds
    | error e =>
      obtain ⟨db',turned,further⟩ := line.turns_failure (r := r) fetched
      have rest := ih further (by omega : n < rounds)
      rw [List.length_append,List.length_singleton,List.append_assoc,Nat.add_assoc,Nat.add_comm 1] at rest
      rw [Db.takeRounds_goes rounds (lineUp_goes slot ended (n + 1)) turned,Backend.fetches_succ,fetched]
      exact rest

-- A call that comes behind the line stands at its end.
theorem Forming.turnKeeps (type : RecordType ρ) (r : Request String) (s : Statement) (b : Backend)
    (slot : Nat) : Db.TurnKeeps type s ⟨r,.starting⟩ (Forming r s b slot) := by
  intro i ready after db ⟨shape,leads,line⟩
  have here : ready.length = i + 1 := by rw [shape,lineUp]; simp
  have steps : db.store.steps ready.length r 6 .starting = _ :=
    Store.steps_queue leads line.made line.cell (by rw [here]; exact Nat.zero_ne_add_one i)
  obtain ⟨c,spent,turned⟩ := Db.turn_spent type line.spent steps rfl after
  refine ⟨_,_,turned,?_,leads,rfl,?_,?_,spent⟩
  · rw [shape,lineUp,lineUp,List.replicate_succ']
    rfl
  · exact List.length_set.symm ▸ line.made
  · rw [Store.cell_setCell_self _ line.made,here,List.range'_1_concat,Nat.add_comm i]
    rfl

-- The first round when nothing is known of the key: the first call computes and the others wait.
theorem Db.turns_unled (type : RecordType ρ) (s : Statement) (unled : db.store.slot? r.key = none)
    (n : Nat) : ∃ db',
    Db.turns type s (List.range (n + 1)) (List.replicate (n + 1) ⟨r,.starting⟩) db =
      (lineUp r db.store.cells.length [] n,db') ∧
    Line s db.backend db.store.cells.length [] [] n db' := by
  have steps : db.store.steps ([] : List (Call String (List ρ))).length r 6 .starting = _ :=
    Store.steps_open unled
  obtain ⟨c,spent,opened⟩ := Db.turn_spent type (Backend.Spent.refl s db.backend)
    steps rfl (List.replicate n ⟨r,.starting⟩)
  have begun : Forming r s db.backend db.store.cells.length 0
      [⟨r,.computing (some db.store.cells.length)⟩] ⟨c,db.store.newSlot r.key ⟨none,some 0,[]⟩⟩ := by
    refine ⟨rfl,?_,rfl,?_,db.store.cell_newSlot_self r.key _,spent⟩
    · exact (db.store.slot?_newSlot r.key r.key _).trans (if_pos rfl)
    · simp [Store.newSlot]
  obtain ⟨ended,db',queued,shape,_,line⟩ :=
    Db.turns_alike (Forming.turnKeeps type r s db.backend _) n begun
  rw [Nat.zero_add] at shape line
  refine ⟨db',?_,line⟩
  rw [List.range_eq_range',List.range'_succ,List.replicate_succ,Db.turns_cons,← shape]
  have first : Db.takeTurn type s (⟨r,.starting⟩ :: List.replicate n ⟨r,.starting⟩) 0 db = _ := opened
  rw [first]
  exact queued

-- A round in which all calls find the result that is there, or begin to compute one of their own.
theorem Db.turns_led (type : RecordType ρ) (s : Statement) {outcome : Phase (List ρ)}
    (leads : db.store.slot? r.key = some slot) (filled : db.store.entry? slot = some entry)
    (finds : ∀ store call, Store.slot? store r.key = some slot → Store.entry? store slot = some entry →
      ∃ after, Store.steps store call r 6 .starting = (after,outcome) ∧
        Store.slot? after r.key = some slot ∧ Store.entry? after slot = some entry) (n : Nat) :
    ∃ db', Backend.Spent s db.backend 0 db'.backend ∧ Db.turns type s (List.range n)
      (List.replicate n ⟨r,.starting⟩) db = (List.replicate n ⟨r,outcome⟩,db') := by
  obtain ⟨db',spent,turned⟩ := Db.turns_same type
    (Q := fun store => store.slot? r.key = some slot ∧ store.entry? slot = some entry)
    (fun store call both => finds store call both.1 both.2) rfl ⟨leads,filled⟩
    (Backend.Spent.refl s db.backend) [] n
  exact ⟨db',spent,List.range_eq_range' ▸ turned⟩

-- A round in which all calls compute, each for itself.
theorem Db.turns_computing (type : RecordType ρ) (r : Request String)
    (spent : Backend.Spent s b 0 db.backend) (n : Nat) :
    Answered s b (b.fetches type s 0 n) n
      (Db.turns type s (List.range n) (List.replicate n ⟨r,.computing none⟩) db) := by
  have each : Db.TurnKeeps type s ⟨r,.computing none⟩
      (fun i calls now => Answered s b (b.fetches type s 0 i) i (calls,now)) := by
    intro i ready after now ⟨answers,spent⟩
    obtain ⟨store,steps⟩ := Store.steps_replace now.store ready.length r (b.fetchAfter type s i)
    obtain ⟨c,spent',turned⟩ := Db.turn_fetches spent steps after
    refine ⟨_,_,turned,?_,spent'⟩
    have last : b.fetches type s 0 (i + 1) = b.fetches type s 0 i ++ [b.fetchAfter type s i] := by
      rw [Backend.fetches,List.range'_1_concat,List.map_append,Nat.zero_add]
      rfl
    rw [last,List.map_append,List.map_append,answers]
    rfl
  have begun : Answered s b (b.fetches type s 0 0) 0 ([],db) := ⟨rfl,spent⟩
  obtain ⟨ended,db',turned,answered⟩ := Db.turns_alike each n begun
  rw [Nat.zero_add] at answered
  have all : Db.turns type s (List.range' 0 n) (List.replicate n ⟨r,.computing none⟩) db = _ := turned
  rw [List.range_eq_range',all]
  exact answered

theorem Db.takeRounds_alike (rounds : Nat) (unreturned : phase.isReturned = false)
    (turned : Db.turns type s (List.range (n + 1)) (List.replicate (n + 1) ⟨r,phase⟩) db = (ended,db')) :
    Db.takeRounds type s (rounds + 1) (List.replicate (n + 1) ⟨r,phase⟩) db =
      Db.takeRounds type s rounds ended db' := by
  have goes : (Machine.mk db.store (List.replicate (n + 1) ⟨r,phase⟩)).isDone = false :=
    isDone_of_unreturned (List.mem_replicate.mpr ⟨Nat.succ_ne_zero n,rfl⟩) unreturned
  exact Db.takeRounds_goes rounds goes (by rw [List.length_replicate]; exact turned)

-- The key is not there: the calls line up for a slot.
theorem answered_absent (unled : db.store.slot? r.key = none) (n : Nat) :
    Answered s db.backend (shared (db.backend.fetches type s 0 (n + 1)))
      (needed (db.backend.fetches type s 0 (n + 1)))
      (Db.takeRounds type s (n + 1 + 1) (List.replicate (n + 1) ⟨r,.starting⟩) db) := by
  obtain ⟨db',turned,line⟩ := Db.turns_unled type s unled n
  have rest := line.takeRounds_answered type r (Nat.lt_succ_self n)
  rw [List.nil_append,List.length_nil,Nat.zero_add] at rest
  rw [Db.takeRounds_alike (n + 1) rfl turned]
  exact rest

-- There is a result of the kind that is asked for.
theorem answered_found (leads : db.store.slot? r.key = some slot)
    (filled : db.store.entry? slot = some entry) (same : entry.kind = r.kind) (n : Nat) :
    Answered s db.backend (List.replicate (n + 1) (.ok entry.value)) 0
      (Db.takeRounds type s (n + 1 + 1) (List.replicate (n + 1) ⟨r,.starting⟩) db) := by
  obtain ⟨db',spent,turned⟩ := Db.turns_led type s leads filled
    (fun store call leads filled => ⟨store.countHit,Store.steps_hit leads filled same,leads,filled⟩) (n + 1)
  have answered : Answered s db.backend (List.replicate (n + 1) (.ok entry.value)) 0
      (List.replicate (n + 1) ⟨r,.done false (.ok entry.value)⟩,db') := by
    refine ⟨?_,spent⟩
    rw [List.map_replicate,List.map_replicate]
    rfl
  rw [Db.takeRounds_alike (n + 1) rfl turned]
  exact answered.takeRounds (n + 1)

-- There is one of another kind.
theorem answered_other (leads : db.store.slot? r.key = some slot)
    (filled : db.store.entry? slot = some entry) (other : entry.kind ≠ r.kind) (n : Nat) :
    Answered s db.backend (db.backend.fetches type s 0 (n + 1)) (n + 1)
      (Db.takeRounds type s (n + 1 + 1) (List.replicate (n + 1) ⟨r,.starting⟩) db) := by
  obtain ⟨db',spent,turned⟩ := Db.turns_led type s leads filled
    (fun store call leads filled => ⟨store.countMiss,Store.steps_clash leads filled other,leads,filled⟩) (n + 1)
  have replaced := Db.turns_computing type r spent (n + 1)
  rw [Db.takeRounds_alike (n + 1) rfl turned,Db.takeRounds_alike n rfl rfl]
  exact replaced.takeRounds n

-- Calls of one request that begin together come to the answers that go by the table.
theorem answered_together (type : RecordType ρ) (s : Statement) (r : Request String)
    {t : Table String (List ρ)} (shows : Shows db.store t) (n : Nat) :
    Answered s db.backend (t.together r (db.backend.fetches type s 0 n)).1
      (t.together r (db.backend.fetches type s 0 n)).2
      (Db.takeRounds type s (n + 1) (List.replicate n ⟨r,.starting⟩) db) := by
  cases n with
  | zero =>
    have none : t.together r (db.backend.fetches type s 0 0) = ([],0) := by
      unfold Table.together
      cases t.find? r.key with
      | none => rfl
      | some entry => exact ite_self _
    rw [none]
    exact Answered.takeRounds ⟨rfl,Backend.Spent.refl s db.backend⟩ 1
  | succ n =>
    have known := shows.slot? r.key
    unfold Table.together
    cases found : t.find? r.key with
    | none =>
      rw [found] at known
      exact answered_absent (Option.map_eq_none_iff.mp known) n
    | some entry =>
      rw [found] at known
      obtain ⟨slot,leads,filled⟩ := Option.map_eq_some_iff.mp known
      by_cases same : entry.kind = r.kind
      · simp only [if_pos same,List.map_const',Backend.length_fetches]
        exact answered_found leads filled same n
      · simp only [if_neg same,Backend.length_fetches]
        exact answered_other leads filled same n

end Rounds

-- The answers of a query that is made so many times at once, and what is sent for them.
theorem Db.queryTogether_answers (type : RecordType ρ) (s : Statement) (n : Nat) {db : Db ρ}
    (shows : Shows db.store t) :
    (Db.queryTogether type s n db).1 =
      (t.together (Db.request type s) (db.backend.fetches type s 0 n)).1 ∧
    Backend.Spent s db.backend (t.together (Db.request type s) (db.backend.fetches type s 0 n)).2
      (Db.queryTogether type s n db).2.backend := by
  obtain ⟨answers,spent⟩ := answered_together type s (Db.request type s) shows n
  refine ⟨?_,spent⟩
  have collected : (Db.queryTogether type s n db).1 =
      ((Db.takeRounds type s (n + 1) (List.replicate n ⟨Db.request type s,.starting⟩) db).1.map
        fun c => c.phase.answer?).filterMap id := by
    rw [List.filterMap_map]
    rfl
  rw [collected,answers,List.filterMap_map]
  exact List.filterMap_some

-- Every one of the calls has an answer: why nothing was built, or what the table and the backend
-- give.
theorem Query.fetchTogether_answers (q : Query.Select) (type : RecordType ρ) (n : Nat) {db : Db ρ}
    (shows : Shows db.store t) : (q.fetchTogether type n db).1.length = n ∧
      (∀ e, q.build = .error e → q.fetchTogether type n db = (List.replicate n (.error e),db)) ∧
      ∀ s, q.build = .ok s → (q.fetchTogether type n db).1 =
        (t.together (Db.request type s) (db.backend.fetches type s 0 n)).1 := by
  unfold Query.Select.fetchTogether
  cases q.build with
  | error e =>
    refine ⟨List.length_replicate,?_,nofun⟩
    intro other same
    cases same
    rfl
  | ok s =>
    have answers := (Db.queryTogether_answers type s n shows).1
    refine ⟨?_,nofun,?_⟩
    · rw [answers,Table.length_together,Backend.length_fetches]
    · intro other same
      cases same
      exact answers

end DataAccess
