import DataAccess.Proofs.Load.Turns

-- Any number of turns of the two halves of a load, in any order. The inserting half receives the
-- messages of the source in their order, and what it comes to is the same whoever takes the next
-- turn.
namespace DataAccess.Load

-- The messages that a source has, chunk by chunk, with what stands behind the last.
def messages (options : Options) (document : Csv.Document) : List Message :=
  match feed options document with
  | .error _ => []
  | .ok feed =>
    if feed.sampled = 0 then [] else feed.chunks.map .ok ++ lastMessage [] feed.fault

theorem begin_messages {options : Options} (positive : 0 < options.chunkSize)
    (document : Csv.Document) :
    (Reading.begin options document).toCome options.chunkSize = messages options document := by
  unfold Reading.begin messages
  cases fed : feed options document with
  | error e =>
    dsimp only
    split
    · rfl
    · rfl
    · rename_i same
      cases same
  | ok feed =>
    have whole := feed_handed fed
    dsimp only
    by_cases zero : feed.sampled = 0
    · rw [if_pos zero,if_pos zero]
      rfl
    · rw [if_neg zero,if_neg zero,whole.chunks,whole.fault]
      exact gathered_chunks document.fault positive

theorem messages_length {options : Options} (positive : 0 < options.chunkSize)
    (document : Csv.Document) : (messages options document).length ≤ document.records.length + 1 := by
  rw [← begin_messages positive]
  unfold Reading.begin
  split
  · exact Nat.zero_le _
  · exact Nat.zero_le _
  · split
    · exact Nat.zero_le _
    · exact gathered_length _ _ _ _

theorem lastMessage_at {fault : Option CsvFault} {i : Nat} (at_i : (lastMessage [] fault)[i]? = some m) :
    ∃ found, fault = some found ∧ i = 0 ∧ (lastMessage [] fault).length = 1 ∧ m = .error found := by
  cases fault with
  | none => simp [lastMessage] at at_i
  | some fault =>
    by_cases died : fault = .readerStopped
    · subst died
      simp [lastMessage] at at_i
    · have one : lastMessage [] (some fault) = [.error fault] := by
        cases fault <;> first | rfl | exact absurd rfl died
      rw [one] at at_i ⊢
      cases i with
      | zero =>
        cases at_i
        exact ⟨fault,rfl,rfl,rfl,rfl⟩
      | succ i => simp at at_i

-- Every chunk is the slice of the records at its place, and an error comes last.
theorem messages_at {options : Options} (positive : 0 < options.chunkSize) {document : Csv.Document}
    {i : Nat} (at_i : (messages options document)[i]? = some m) :
    (∀ chunk, m = .ok chunk → i < sliceCount options.chunkSize document.records.length
        document.fault.isSome ∧ slice options.chunkSize document.records i = chunk) ∧
      ∀ fault, m = .error fault → i + 1 = (messages options document).length ∧
        document.fault = some fault := by
  unfold messages at at_i ⊢
  cases fed : feed options document with
  | error e => simp [fed] at at_i
  | ok feed =>
    have whole := feed_handed fed
    simp only [fed] at at_i ⊢
    by_cases zero : feed.sampled = 0
    · simp [zero] at at_i
    · rw [if_neg zero,whole.chunks,whole.fault] at at_i ⊢
      rw [List.getElem?_append] at at_i
      split at at_i
      · rename_i inside
        rw [List.getElem?_map] at at_i
        obtain ⟨chunk,at_chunk,rfl⟩ := Option.map_eq_some_iff.mp at_i
        refine ⟨fun other same => ?_,fun fault same => ?_⟩
        · cases same
          exact (chunk_at positive).mp at_chunk
        · cases same
      · rename_i beyond
        obtain ⟨found,faulty,place,one,rfl⟩ := lastMessage_at at_i
        refine ⟨fun chunk same => ?_,fun fault same => ?_⟩
        · cases same
        · cases same
          refine ⟨?_,faulty⟩
          rw [List.length_append,one]
          omega

namespace Handover

variable {options : Options} {table : Ident} {h : Handover ρ}

-- The messages that the inserting half receives in these turns.
def received (options : Options) (table : Ident) (h : Handover ρ) : List Half → List Message
  | [] => []
  | .reader :: turns => received options table (h.read options) turns
  | .inserter :: turns => h.taken?.toList ++ received options table (h.insert options table) turns

theorem turn_sound (table : Ident) (sound : Sound options h) (half : Half) :
    Sound options (h.turn options table half) := by
  cases half with
  | reader => exact sound.read
  | inserter => exact sound.insert

theorem run_sound (table : Ident) (sound : Sound options h) (turns : List Half) :
    Sound options (h.run options table turns) := by
  induction turns generalizing h with
  | nil => exact sound
  | cons half turns ih => exact ih (turn_sound table sound half)

-- Whoever takes the next turn, the end stays the same.
theorem run_outcome (sound : Sound options h) (turns : List Half) :
    (h.run options table turns).outcome options table = h.outcome options table := by
  induction turns generalizing h with
  | nil => rfl
  | cons half turns ih =>
    refine (ih (turn_sound table sound half)).trans ?_
    cases half with
    | reader => exact read_outcome
    | inserter => exact insert_outcome sound

theorem hasEnded_iff : h.hasEnded = true ↔ ∃ result, h.inserting = .ended result := by
  unfold hasEnded
  split
  · rename_i result ended
    exact ⟨fun _ => ⟨result,ended⟩,fun _ => rfl⟩
  · rename_i other
    constructor
    · intro no
      cases no
    · intro ⟨result,ended⟩
      exact absurd ended (other result)

theorem send_ended (ended : h.hasEnded = true) (m : Message) (next : Reading) :
    h.send m next = { h with reading := .gone false } := by
  unfold send
  rw [if_pos ended]

-- Once the inserting half has ended, a turn changes nothing but how far the reader is.
theorem turn_ended (options : Options) (table : Ident) (ended : h.inserting = .ended result)
    (half : Half) :
    (h.turn options table half).inserting = .ended result ∧ (h.turn options table half).db = h.db ∧
      (h.turn options table half).queue = h.queue := by
  cases half with
  | reader =>
    obtain ⟨inserting,db⟩ := @read_untouched _ options h
    refine ⟨inserting.trans ended,db,?_⟩
    have finished := hasEnded_iff.mpr ⟨result,ended⟩
    change (h.read options).queue = h.queue
    unfold read
    split
    · rfl
    · rfl
    · rfl
    · rw [send_ended finished]
    · rw [send_ended finished]
    · rfl
  | inserter =>
    have same : h.insert options table = h := by
      unfold insert
      simp only [ended]
    rw [turn,same]
    exact ⟨ended,rfl,rfl⟩

theorem run_ended (options : Options) (table : Ident) (ended : h.inserting = .ended result)
    (turns : List Half) :
    (h.run options table turns).inserting = .ended result ∧
      (h.run options table turns).db = h.db ∧ (h.run options table turns).queue = h.queue ∧
        received options table h turns = [] := by
  induction turns generalizing h with
  | nil => exact ⟨ended,rfl,rfl,rfl⟩
  | cons half turns ih =>
    obtain ⟨still,db,queue⟩ := turn_ended options table ended half
    obtain ⟨last,later,left,nothing⟩ := ih still
    refine ⟨last,later.trans db,left.trans queue,?_⟩
    cases half with
    | reader => exact nothing
    | inserter =>
      have taken : h.taken? = none := by
        unfold taken?
        simp only [ended]
      rw [received,taken]
      exact nothing

theorem Sound.nothing_ahead (sound : Sound options h) (ended : h.inserting = .ended (.ok report)) :
    h.ahead options = [] := by
  obtain ⟨empty,died,gone⟩ := sound.complete report ended
  rw [ahead,empty,gone]
  rfl

-- What is received comes first of what was ahead. As long as the load goes on the rest is still ahead,
-- and where it ends well there is no rest.
theorem received_ahead (sound : Sound options h) (running : h.hasEnded = false) (turns : List Half) :
    ∃ rest, received options table h turns ++ rest = h.ahead options ∧
      ((h.run options table turns).hasEnded = false → rest = (h.run options table turns).ahead options) ∧
      ∀ report, (h.run options table turns).inserting = .ended (.ok report) → rest = [] := by
  induction turns generalizing h with
  | nil =>
    refine ⟨_,rfl,fun _ => rfl,fun report ended => sound.nothing_ahead ended⟩
  | cons half turns ih =>
    have further := turn_sound table sound half
    obtain ⟨taken,before,first⟩ : ∃ taken,
        received options table h (half :: turns) =
          taken ++ received options table (h.turn options table half) turns ∧
        taken ++ (h.turn options table half).ahead options = h.ahead options := by
      cases half with
      | reader => exact ⟨[],rfl,(@read_keeps _ options h running).1⟩
      | inserter => exact ⟨h.taken?.toList,rfl,insert_ahead⟩
    rw [before,← first]
    change ∃ rest, _ ∧ (((h.turn options table half).run options table turns).hasEnded = false → _) ∧ _
    cases finished : (h.turn options table half).hasEnded with
    | false =>
      obtain ⟨rest,same,left,complete⟩ := ih further finished
      exact ⟨rest,by rw [List.append_assoc,same],left,complete⟩
    | true =>
      obtain ⟨result,ended⟩ := hasEnded_iff.mp finished
      obtain ⟨last,_,_,nothing⟩ := run_ended options table ended turns
      refine ⟨(h.turn options table half).ahead options,by rw [nothing,List.append_nil],
        fun unended => ?_,fun report well => ?_⟩
      · rw [hasEnded_iff.mpr ⟨result,last⟩] at unended
        cases unended
      · cases last.symm.trans well
        exact further.nothing_ahead ended

end Handover

end DataAccess.Load
