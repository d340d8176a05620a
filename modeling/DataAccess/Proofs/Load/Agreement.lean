import DataAccess.Proofs.Load.Progress
import DataAccess.Proofs.Load.Refusals

-- The reading and the inserting half of a load agree, whoever takes the turns: what is received,
-- and what the load ends with, is what reading everything first and inserting it then has.
namespace DataAccess.Load
open Handover

theorem insertFeed_opened {options : Options} {document : Csv.Document} {handed : Feed}
    (positive : 0 < options.chunkSize) (whole : Handed options document handed) (table : Ident)
    (some : handed.sampled ≠ 0) (db : Db ρ) : insertFeed options table handed db =
      opened options table handed.schema (diesOf document.fault)
        (gathered options.chunkSize document.fault [] document.records) db := by
  have drained (filled : TableSchema) : drain (ρ := ρ) options table filled (diesOf document.fault)
      Report.empty (gathered options.chunkSize document.fault [] document.records) =
        insertAll options table filled handed := by
    rw [← drain_feed,whole.chunks,whole.fault]
    exact congrArg _ (gathered_chunks document.fault positive)
  rw [insertFeed,if_neg some,opened]
  simp only [drained]
  rfl

-- With all that is still to be done in order, a load is what it is alone.
theorem start_outcome {options : Options} {name : String} {source : Csv.Source} {table : Ident}
    (valid : options.validate = .ok ()) (named : Ident.parse name = .ok table) (capacity : Nat)
    (db : Db ρ) : (start capacity source.document db).outcome options table =
      load options name source db := by
  have ahead : (start capacity source.document db).outcome options table =
      ending options table (columnsOf options source.document)
        (Reading.begin options source.document).dies
        ((Reading.begin options source.document).toCome options.chunkSize) .awaiting db := rfl
  rw [load_fed valid named source db,ahead]
  unfold columnsOf Reading.begin
  cases fed : feed options source.document with
  | error e =>
    rw [tried_fails rfl]
    split
    · rename_i same
      cases same
      rfl
    · rename_i same
      cases same
      rfl
    · rename_i same
      cases same
  | ok handed =>
    rw [tried_run rfl]
    unfold ending
    dsimp only
    by_cases zero : handed.sampled = 0
    · rw [if_pos zero,insertFeed,if_pos zero]
    · rw [if_neg zero,if_neg zero,insertFeed_opened (Options.validate_ok valid).1 (feed_handed fed) table zero]
      rfl

-- What is seen of a load whose halves have taken some turns, with these messages received.
structure Agrees (options : Options) (document : Csv.Document) (alone : Except Stopped Report × Db ρ)
    (h : Handover ρ) (got : List Message) : Prop where
  order : got <+: messages options document
  slices : ∀ (i : Nat) chunk, got[i]? = some (.ok chunk) →
    i < sliceCount options.chunkSize document.records.length document.fault.isSome ∧
      slice options.chunkSize document.records i = chunk
  last : ∀ (i : Nat) fault, got[i]? = some (.error fault) →
    i + 1 = got.length ∧ document.fault = some fault
  unlost : h.result? = none → got ++ h.ahead options = messages options document
  all : ∀ report, h.result? = some (.ok report) → got = messages options document
  room : h.queue.length ≤ h.capacity
  result : ∀ result, h.result? = some result → (result,h.db) = alone

-- A load whose inserting half has ended: nothing more is received or done, and the reader is gone when
-- it next sends.
structure Over (options : Options) (table : Ident) (h : Handover ρ) : Prop where
  still : ∀ turns, (h.run options table turns).result? = h.result? ∧
    (h.run options table turns).db = h.db ∧ (h.run options table turns).queue = h.queue ∧
      received options table h turns = []
  stops : (∃ chunk left fault, h.reading = .sending chunk left fault) ∨
    (∃ last, h.reading = .closing last) → (h.read options).reading = .gone false

theorem result?_iff {h : Handover ρ} : h.result? = some result ↔ h.inserting = .ended result := by
  unfold result?
  split
  · rename_i own ended
    rw [ended]
    simp
  · rename_i other
    constructor
    · intro none
      cases none
    · intro ended
      exact absurd ended (other result)

theorem result?_none {h : Handover ρ} : h.result? = none ↔ h.hasEnded = false := by
  unfold result? hasEnded
  split <;> simp

theorem over_of_ended {h : Handover ρ} (options : Options) (table : Ident)
    (ended : h.inserting = .ended result) : Over options table h := by
  constructor
  · intro turns
    obtain ⟨last,db,queue,nothing⟩ := run_ended options table ended turns
    rw [result?_iff.mpr ended,result?_iff.mpr last]
    exact ⟨rfl,db,queue,nothing⟩
  · intro sends
    have finished := hasEnded_iff.mpr ⟨result,ended⟩
    unfold Handover.read
    rcases sends with ⟨chunk,left,fault,at_h⟩ | ⟨last,at_h⟩
    · simp only [at_h,send_ended finished]
    · simp only [at_h,send_ended finished]

theorem run_agrees {options : Options} {name : String} {source : Csv.Source} {table : Ident}
    (valid : options.validate = .ok ()) (named : Ident.parse name = .ok table) (capacity : Nat)
    (db : Db ρ) (turns : List Half) :
    Agrees options source.document (load options name source db)
      ((start capacity source.document db).run options table turns)
      (received options table (start capacity source.document db) turns) := by
  have positive := (Options.validate_ok valid).1
  have sound : Sound options (start capacity source.document db) :=
    start_sound capacity source.document db
  have ahead : (start capacity source.document db).ahead options =
      messages options source.document := begin_messages positive source.document
  obtain ⟨rest,whole,unended,well⟩ := @received_ahead _ options table _ sound rfl turns
  rw [ahead] at whole
  have order : received options table (start capacity source.document db) turns <+:
      messages options source.document := ⟨rest,whole⟩
  have at_i {i : Nat} {m : Message}
      (got : (received options table (start capacity source.document db) turns)[i]? = some m) :
      (messages options source.document)[i]? = some m := by
    rw [← whole,List.getElem?_append_left (List.getElem?_eq_some_iff.mp got).1,got]
  refine ⟨order,?_,?_,?_,?_,?_,?_⟩
  · intro i chunk got
    exact (messages_at positive (at_i got)).1 chunk rfl
  · intro i fault got
    obtain ⟨last,faulty⟩ := (messages_at positive (at_i got)).2 fault rfl
    have inside := (List.getElem?_eq_some_iff.mp got).1
    have shorter := order.length_le
    exact ⟨by omega,faulty⟩
  · intro none
    rw [← unended (result?_none.mp none),whole]
  · intro report ended
    rw [well report (result?_iff.mp ended),List.append_nil] at whole
    exact whole
  · exact (run_sound table sound turns).within
  · intro result ended
    rw [← start_outcome valid named capacity db,← run_outcome sound turns,
      ended_outcome (result?_iff.mp ended)]

-- The two halves of a load agree under every schedule, and come to an end under every fair one.
theorem schedules_agree {options : Options} {name : String} {source : Csv.Source} {table : Ident}
    (valid : options.validate = .ok ()) (named : Ident.parse name = .ok table) {capacity : Nat}
    (room : 0 < capacity) (db : Db ρ) :
    (∀ turns, Agrees options source.document (load options name source db)
        ((start capacity source.document db).run options table turns)
        (received options table (start capacity source.document db) turns) ∧
      (((start capacity source.document db).run options table turns).result?.isSome →
        Over options table ((start capacity source.document db).run options table turns))) ∧
    ∀ stretches : List (List Half), (∀ turns ∈ stretches, Fair turns) →
      4 * source.document.records.length + 8 < stretches.length →
        ((start capacity source.document db).run options table stretches.flatten).result?.isSome := by
  refine ⟨fun turns => ⟨run_agrees valid named capacity db turns,fun ended => ?_⟩,?_⟩
  · obtain ⟨result,ended⟩ := Option.isSome_iff_exists.mp ended
    exact over_of_ended options table (result?_iff.mp ended)
  · intro stretches fair enough
    have positive := (Options.validate_ok valid).1
    have ahead : (start capacity source.document db).ahead options =
        messages options source.document := begin_messages positive source.document
    have bound : (start capacity source.document db).effort options < stretches.length := by
      have few := messages_length positive source.document
      rw [← ahead] at few
      have same : (start capacity source.document db).effort options =
          2 * source.document.records.length + 3 +
            (2 * ((start capacity source.document db).ahead options).length + 3) := rfl
      omega
    have finished := fair_ends table (start_sound capacity source.document db) room fair bound
    obtain ⟨result,ended⟩ := hasEnded_iff.mp finished
    rw [result?_iff.mpr ended]
    rfl

-- Both halves by turns, with room for one message.
theorem schedules_agree_by_turns : ∃ result,
    ((start 1 Sample.source.document Sample.start).run Sample.options Sample.table
      (List.replicate 21 [.reader,.inserter]).flatten).result? = some result ∧
    (result,((start 1 Sample.source.document Sample.start).run Sample.options Sample.table
      (List.replicate 21 [.reader,.inserter]).flatten).db) =
        load Sample.options "t" Sample.source Sample.start := by
  have valid : Sample.options.validate = .ok () := rfl
  have named : Ident.parse "t" = .ok Sample.table := rfl
  have read : Sample.source.document.records.length = 3 := by rfl
  obtain ⟨agrees,ends⟩ := @schedules_agree _ _ _ Sample.source _ valid named 1 Nat.one_pos Sample.start
  have fair : ∀ turns ∈ List.replicate 21 [Half.reader,.inserter], Fair turns := by
    intro turns member
    rw [List.eq_of_mem_replicate member]
    exact ⟨by simp,by simp⟩
  have finished := ends _ fair (by rw [read,List.length_replicate]; decide)
  obtain ⟨result,ended⟩ := Option.isSome_iff_exists.mp finished
  exact ⟨result,ended,(agrees _).1.result result ended⟩

end DataAccess.Load
