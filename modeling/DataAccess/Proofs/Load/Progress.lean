import DataAccess.Proofs.Load.Schedules

-- Why the two halves of a load come to an end. Each turn that changes anything leaves less to be
-- done, and where there is room for one message never do both halves wait.
namespace DataAccess.Load

-- How many turns a half can still take that change anything.
def Reading.effort : Reading → Nat
  | .sampling document => 2 * document.records.length + 3
  | .gathering _ left _ => 2 * left.length + 2
  | .sending _ left _ => 2 * left.length + 3
  | .closing _ => 1
  | .gone _ => 0

def Inserting.effort (ahead : Nat) : Inserting → Nat
  | .awaiting => 2 * ahead + 3
  | .opening _ | .filling _ _ _ => 2 * ahead + 2
  | .receiving _ _ => 2 * ahead + 1
  | .ended _ => 0

namespace Handover

variable {options : Options} {table : Ident} {h : Handover ρ}

def effort (options : Options) (h : Handover ρ) : Nat :=
  h.reading.effort + h.inserting.effort (h.ahead options).length

theorem begin_effort (options : Options) (document : Csv.Document) :
    (Reading.begin options document).effort < (Reading.sampling document).effort := by
  unfold Reading.begin
  split
  · exact Nat.zero_lt_succ _
  · exact Nat.zero_lt_succ _
  · split
    · exact Nat.zero_lt_succ _
    · exact Nat.lt_succ_self _

theorem finish_effort (chunk : List Csv.Record) (fault : Option CsvFault) :
    (Reading.finish chunk fault).effort < 2 := by
  unfold Reading.finish
  split
  · split <;> simp [Reading.effort]
  · simp [Reading.effort]
  · simp [Reading.effort]

theorem gather_effort (size : Nat) (chunk left : List Csv.Record) (fault : Option CsvFault) :
    (Reading.gather size chunk left fault).effort < 2 * (left.length + 1) + 2 := by
  unfold Reading.gather
  split <;> simp only [Reading.effort] <;> omega

theorem send_effort (m : Message) {next : Reading} (lower : next.effort < h.reading.effort) :
    h.send m next = h ∨ (h.send m next).reading.effort < h.reading.effort := by
  unfold send
  split
  · exact .inr (Nat.zero_lt_of_lt lower)
  · split
    · exact .inr lower
    · exact .inl rfl

theorem read_effort : h.read options = h ∨ (h.read options).reading.effort < h.reading.effort := by
  unfold read
  cases at_h : h.reading with
  | sampling document => exact .inr (begin_effort options document)
  | gathering chunk left fault =>
    cases left with
    | nil => exact .inr (finish_effort chunk fault)
    | cons record left => exact .inr (gather_effort _ _ left fault)
  | sending chunk left fault =>
    dsimp only
    rw [← at_h]
    apply send_effort
    rw [at_h]
    exact Nat.lt_succ_self _
  | closing last =>
    dsimp only
    rw [← at_h]
    apply send_effort
    rw [at_h]
    exact Nat.zero_lt_one
  | gone died => exact .inl rfl

theorem work_ended (task : LoadTask ρ Report) :
    ∃ result, (h.work task fun report => .ended (.ok report)).inserting = .ended result := by
  rcases work_cases (h := h) task fun report => .ended (.ok report) with
    ⟨report,db,_,same⟩ | ⟨e,db,_,same⟩
  · exact ⟨.ok report,by rw [same]⟩
  · exact ⟨.error e,by rw [same]⟩

-- Having ended, or waiting for columns or for a message from a reader that is not gone.
def Idle (h : Handover ρ) : Prop :=
  h.hasEnded = true ∨ (∀ died, h.reading ≠ .gone died) ∧ (h.columns = none ∨ h.queue = [])

-- What the inserting half comes to in one turn.
inductive Advances (h next : Handover ρ) : Prop where
  | waits (same : next = h) (idle : h.Idle)
  | ends (running : h.hasEnded = false) (ended : next.inserting = .ended result)
  | opens (awaiting : h.inserting = .awaiting) (opening : next.inserting = .opening schema)
  | fills (opening : h.inserting = .opening schema) (ready : next.inserting = .receiving filled report)
  | takes (receiving : h.inserting = .receiving schema report) (taken : h.taken? = some m)
      (filling : next.inserting = .filling schema report chunk)
  | commits (filling : h.inserting = .filling schema report chunk)
      (ready : next.inserting = .receiving schema total)

theorem insert_advances : Advances h (h.insert options table) := by
  unfold insert
  cases at_h : h.inserting with
  | awaiting =>
    have running : h.hasEnded = false := by simp [hasEnded,at_h]
    dsimp only
    unfold await
    split
    · exact .ends running rfl
    · split
      · obtain ⟨result,ended⟩ := work_ended (h := h) (concludeEmpty table)
        exact .ends running ended
      · exact .opens at_h rfl
    · exact .ends running rfl
    · rename_i none busy
      exact .waits rfl (.inr ⟨busy,.inl none⟩)
  | opening schema =>
    have running : h.hasEnded = false := by simp [hasEnded,at_h]
    dsimp only
    rcases work_cases (h := h) (openTable options table schema) fun filled =>
        Inserting.receiving filled Report.empty with ⟨a,db,_,same⟩ | ⟨e,db,_,same⟩
    · exact .fills at_h (by rw [same])
    · exact .ends running (by rw [same])
  | receiving schema report =>
    have running : h.hasEnded = false := by simp [hasEnded,at_h]
    dsimp only
    unfold receive
    split
    · rename_i queued
      have taken : h.taken? = h.queue.head? := by simp [taken?,at_h]
      rw [queued] at taken
      exact .takes at_h taken rfl
    · exact .ends running rfl
    · obtain ⟨result,ended⟩ := work_ended (h := h) (conclude table report _)
      exact .ends running ended
    · rename_i empty busy
      exact .waits rfl (.inr ⟨busy,.inr empty⟩)
  | filling schema report chunk =>
    have running : h.hasEnded = false := by simp [hasEnded,at_h]
    dsimp only
    rcases work_cases (h := h) (insertChunk options table schema report chunk)
        (Inserting.receiving schema) with ⟨a,db,_,same⟩ | ⟨e,db,_,same⟩
    · exact .commits at_h (by rw [same])
    · exact .ends running (by rw [same])
  | ended result => exact .waits rfl (.inl (hasEnded_iff.mpr ⟨result,at_h⟩))

theorem insert_effort : h.insert options table = h ∨
    (h.insert options table).inserting.effort ((h.insert options table).ahead options).length <
      h.inserting.effort (h.ahead options).length := by
  have fewer := congrArg List.length (@insert_ahead _ options table h)
  rw [List.length_append] at fewer
  cases @insert_advances _ options table h with
  | waits same _ => exact .inl same
  | ends running ended =>
    refine .inr ?_
    rw [ended]
    unfold hasEnded at running
    cases at_h : h.inserting with
    | ended result => simp [at_h] at running
    | _ => exact Nat.zero_lt_succ _
  | opens before after | fills before after | commits before after =>
    refine .inr ?_
    rw [before,after]
    simp only [Inserting.effort]
    omega
  | takes before taken after =>
    refine .inr ?_
    rw [taken,Option.toList_some,List.length_singleton] at fewer
    rw [before,after]
    simp only [Inserting.effort]
    omega

theorem turn_effort (options : Options) (table : Ident) (h : Handover ρ) (half : Half) :
    h.turn options table half = h ∨ (h.turn options table half).effort options < h.effort options := by
  cases half with
  | reader =>
    rcases @read_effort _ options h with same | lower
    · exact .inl same
    · refine .inr ?_
      obtain ⟨inserting,_⟩ := @read_untouched _ options h
      change (h.read options).effort options < _
      unfold effort
      rw [inserting]
      cases running : h.hasEnded with
      | false =>
        rw [(@read_keeps _ options h running).1]
        exact Nat.add_lt_add_right lower _
      | true =>
        obtain ⟨result,ended⟩ := hasEnded_iff.mp running
        rw [ended]
        exact lower
  | inserter =>
    rcases @insert_effort _ options table h with same | lower
    · exact .inl same
    · refine .inr ?_
      obtain ⟨reading,_⟩ := @insert_same _ options table h
      change (h.insert options table).effort options < _
      unfold effort
      rw [reading]
      exact Nat.add_lt_add_left lower _

theorem run_still (still : ∀ half ∈ turns, h.turn options table half = h) :
    h.run options table turns = h := by
  induction turns with
  | nil => rfl
  | cons half turns ih =>
    obtain ⟨same,later⟩ := List.forall_mem_cons.mp still
    change (h.turn options table half).run options table turns = h
    rw [same]
    exact ih later

theorem run_effort (options : Options) (table : Ident) (h : Handover ρ) (turns : List Half) :
    (∀ half ∈ turns, h.turn options table half = h) ∨
      (h.run options table turns).effort options < h.effort options := by
  induction turns generalizing h with
  | nil => exact .inl (by simp)
  | cons half turns ih =>
    rcases turn_effort options table h half with same | lower
    · rcases ih h with still | later
      · exact .inl (List.forall_mem_cons.mpr ⟨same,still⟩)
      · refine .inr ?_
        change ((h.turn options table half).run options table turns).effort options < _
        rwa [same]
    · refine .inr ?_
      rcases ih (h.turn options table half) with still | later
      · change ((h.turn options table half).run options table turns).effort options < _
        rwa [run_still still]
      · exact Nat.lt_trans later lower

theorem send_waits {m : Message} {next : Reading} (lower : next.effort < h.reading.effort)
    (still : h.send m next = h) : h.capacity ≤ h.queue.length := by
  apply Nat.le_of_not_lt
  intro room
  rcases send_effort m lower with _ | further
  · unfold send at still
    rw [if_pos room] at still
    split at still
    · have same := congrArg (Reading.effort ∘ reading) still
      exact Nat.ne_of_lt (Nat.zero_lt_of_lt lower) same
    · exact Nat.ne_of_lt lower (congrArg (Reading.effort ∘ reading) still)
  · exact Nat.ne_of_lt further (congrArg (Reading.effort ∘ reading) still)

-- A reader that waits is done, or waits for room.
theorem read_waits (still : h.read options = h) :
    (∃ died, h.reading = .gone died) ∨ h.capacity ≤ h.queue.length := by
  have same := congrArg (Reading.effort ∘ reading) still
  unfold read at same still
  cases at_h : h.reading with
  | sampling document =>
    simp only [at_h,Function.comp] at same
    exact absurd same (Nat.ne_of_lt (begin_effort options document))
  | gathering chunk left fault =>
    cases left with
    | nil =>
      simp only [at_h,Function.comp] at same
      exact absurd same (Nat.ne_of_lt (finish_effort chunk fault))
    | cons record left =>
      simp only [at_h,Function.comp] at same
      exact absurd same (Nat.ne_of_lt (gather_effort _ _ left fault))
  | sending chunk left fault =>
    simp only [at_h] at still
    refine .inr (send_waits ?_ still)
    rw [at_h]
    exact Nat.lt_succ_self _
  | closing last =>
    simp only [at_h] at still
    refine .inr (send_waits ?_ still)
    rw [at_h]
    exact Nat.zero_lt_one
  | gone died => exact .inl ⟨died,rfl⟩

theorem insert_waits (still : h.insert options table = h) : h.Idle := by
  cases @insert_advances _ options table h with
  | waits _ idle => exact idle
  | ends running ended =>
    rw [still] at ended
    exact .inl (hasEnded_iff.mpr ⟨_,ended⟩)
  | opens before after | fills before after | commits before after =>
    rw [still] at after
    cases before.symm.trans after
  | takes before _ after =>
    rw [still] at after
    cases before.symm.trans after

-- No turn can stop a load where there is room for one message.
theorem Sound.ends (sound : Sound options h) (room : 0 < h.capacity)
    (reads : h.read options = h) (inserts : h.insert options table = h) : h.hasEnded = true := by
  rcases insert_waits inserts with ended | ⟨busy,waits⟩
  · exact ended
  · rcases read_waits reads with ⟨died,gone⟩ | full
    · exact absurd gone (busy died)
    · have some : h.queue ≠ [] := by
        intro empty
        rw [empty] at full
        exact Nat.not_le.mpr room full
      have none := waits.resolve_right some
      obtain ⟨died,gone⟩ := sound.unheaded none fun document at_h =>
        some (sound.unsampled document at_h).2.2
      exact absurd gone (busy died)

theorem turn_capacity (options : Options) (table : Ident) (h : Handover ρ) (half : Half) :
    (h.turn options table half).capacity = h.capacity := by
  cases half with
  | reader =>
    change (h.read options).capacity = h.capacity
    unfold read send
    split
    · rfl
    · rfl
    · rfl
    · split
      · rfl
      · split <;> rfl
    · split
      · rfl
      · split <;> rfl
    · rfl
  | inserter => exact (@insert_same _ options table h).2.2.2

theorem run_capacity (options : Options) (table : Ident) (h : Handover ρ) (turns : List Half) :
    (h.run options table turns).capacity = h.capacity := by
  induction turns generalizing h with
  | nil => rfl
  | cons half turns ih => exact (ih _).trans (turn_capacity options table h half)

theorem run_append (options : Options) (table : Ident) (h : Handover ρ) (turns more : List Half) :
    h.run options table (turns ++ more) = (h.run options table turns).run options table more :=
  List.foldl_append

-- A stretch of a schedule in which both halves have their turn.
def Fair (turns : List Half) : Prop := .reader ∈ turns ∧ .inserter ∈ turns

-- Each such stretch brings the load nearer to its end.
theorem fair_ends (table : Ident) (sound : Sound options h) (room : 0 < h.capacity)
    {stretches : List (List Half)} (fair : ∀ turns ∈ stretches, Fair turns)
    (enough : h.effort options < stretches.length) :
    (h.run options table stretches.flatten).hasEnded = true := by
  induction stretches generalizing h with
  | nil => exact absurd enough (Nat.not_lt_zero _)
  | cons turns stretches ih =>
    obtain ⟨⟨reads,inserts⟩,later⟩ := List.forall_mem_cons.mp fair
    rw [List.flatten_cons,run_append]
    cases finished : (h.run options table turns).hasEnded with
    | true =>
      obtain ⟨result,ended⟩ := hasEnded_iff.mp finished
      exact hasEnded_iff.mpr ⟨result,(run_ended options table ended stretches.flatten).1⟩
    | false =>
      have kept := run_sound table sound turns
      rcases run_effort options table h turns with still | lower
      · have ended := sound.ends room (still _ reads) (still _ inserts)
        rw [run_still still,ended] at finished
        cases finished
      · refine ih kept (by rwa [run_capacity]) later ?_
        rw [List.length_cons] at enough
        omega

end Handover

end DataAccess.Load
