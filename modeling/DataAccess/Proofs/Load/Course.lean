import DataAccess.Proofs.Load.Inserts
import DataAccess.Proofs.Load.Preparation

-- Inserting the chunks of a feed, one after the other. A chunk that does not convert sends nothing;
-- any other sends one statement, which is refused or inserts; and the first that fails is the last.
namespace DataAccess
open Backend (exchange outcomeOf perform_ready log_grown)

-- Acts that send these statements in this order, each over a connection that is given back.
structure Sends (acts : List Act) (ss : List Statement) : Prop where
  order : acts.filterMap Act.sent? = ss.map fun s => (.count,s.sql,s.params.toList)
  returned : acts.count .acquire = acts.count .release

namespace Sends

theorem nil : Sends [] [] := ⟨rfl,rfl⟩

theorem logged (event : Event) : Sends [.log event] [] := ⟨rfl,rfl⟩

theorem exchanged (s : Statement) (result : Except Error Outcome) :
    Sends (exchange s .count result) [s] := ⟨rfl,rfl⟩

theorem append (first : Sends acts ss) (second : Sends more ts) : Sends (acts ++ more) (ss ++ ts) := by
  refine ⟨?_,?_⟩
  · rw [List.filterMap_append,List.map_append,first.order,second.order]
  · rw [List.count_append,List.count_append,first.returned,second.returned]

end Sends

namespace Load

-- What the next statement, or a later one, is answered: how many rows it changed, or why none.
def answer (replies : List Reply) (i : Nat) : Except Error UInt64 :=
  (outcomeOf .count replies[i]?).map Outcome.count

theorem answer_tail (replies : List Reply) (i : Nat) : answer replies.tail i = answer replies (i + 1) := by
  rw [answer,answer,List.getElem?_tail]

theorem execute_ready {db : Db ρ} (ready : db.backend.availability.refusal? = none) (s : Statement) :
    ∃ next, Db.execute s db = (answer db.backend.replies 0,next) ∧
      db.backend.Grown (exchange s .count (outcomeOf .count db.backend.replies.head?)) 1 next.backend := by
  obtain ⟨answered,grown⟩ := perform_ready ready s .count
  refine ⟨{ db with backend := (db.backend.perform s .count).2 },?_,grown⟩
  have ran : Db.run s .count db =
      ((db.backend.perform s .count).1,{ db with backend := (db.backend.perform s .count).2 }) := rfl
  rw [Db.execute,bind_run,ran,answered,answer,← List.head?_eq_getElem?]
  cases outcomeOf .count db.backend.replies.head? <;> rfl

-- A failure that is told of and goes on.
theorem told_run (task : Task ρ α) (event : Error → Event) (db : Db ρ) :
    (tryCatch task fun e => do Db.log (event e); throw e : Task ρ α) db =
      match task db with
      | (.ok a,next) => (.ok a,next)
      | (.error e,next) => (.error e,{ next with backend := next.backend.log (event e) }) := by
  rw [catch_run]
  rcases task db with ⟨result,next⟩
  cases result <;> rfl

theorem inserting_run (s : Statement) (event : Error → Event) {db : Db ρ}
    (ready : db.backend.availability.refusal? = none) :
    ∃ (acts : List Act) (next : Db ρ), db.backend.Grown acts 1 next.backend ∧ Sends acts [s] ∧
      (tryCatch (Db.execute s) fun e => do Db.log (event e); throw e : Task ρ UInt64) db =
        (answer db.backend.replies 0,next) := by
  obtain ⟨next,executed,grown⟩ := execute_ready ready s
  have sends := Sends.exchanged s (outcomeOf .count db.backend.replies.head?)
  rw [told_run,executed]
  cases answer db.backend.replies 0 with
  | ok n => exact ⟨_,next,grown,sends,rfl⟩
  | error e => exact ⟨_,_,grown.trans (log_grown _ (event e)),sends.append (.logged (event e)),rfl⟩

theorem flush_run {schema : TableSchema} {table : Ident} {s : Statement} {rows : List Row}
    (built : insertStatement table schema.columnNames rows = .ok s) (options : Options)
    (report : Report) {db : Db ρ} (ready : db.backend.availability.refusal? = none) :
    ∃ (acts : List Act) (next : Db ρ), db.backend.Grown acts 1 next.backend ∧ Sends acts [s] ∧
      flush options table schema.columnNames report rows db =
        (((answer db.backend.replies 0).map report.add).mapError report.stop,next) := by
  let event : Event :=
    if options.logInsertQuery then .chunkStatement s.sql rows.length
    else .chunkInserting table.sql rows.length
  let told : Db ρ := { db with backend := db.backend.log event }
  have ready : told.backend.availability.refusal? = none := ready
  obtain ⟨acts,next,grown,sends,ran⟩ :=
    inserting_run s (fun e => .chunkFailed table.sql report.rowsInserted e) ready
  refine ⟨_,next,(log_grown db.backend event).trans grown,(Sends.logged event).append sends,?_⟩
  unfold flush
  rw [built,bind_run,after_run]
  change (report.after (Db.log event) >>= _) db = _
  rw [bind_run,after_run]
  change (report.after (tryCatch (Db.execute s) _) >>= _) told = _
  rw [bind_run,after_run,ran]
  change _ = (((answer told.backend.replies 0).map report.add).mapError report.stop,next)
  cases answer told.backend.replies 0 <;> rfl

-- One chunk: what does not convert sends nothing, and what does sends one statement.
theorem insertChunk_run {schema : TableSchema} {chunk : List Csv.Record} {table : Ident}
    (fillable : Fillable schema size) (some : chunk ≠ []) (full : chunk.length ≤ size)
    (even : ∀ r ∈ chunk, r.fields.length = schema.columns.length) (options : Options)
    (report : Report) {db : Db ρ} (ready : db.backend.availability.refusal? = none) :
    (∃ e, chunkValues schema chunk = .error e ∧
      insertChunk options table schema report chunk db = (.error (report.stop e),db)) ∨
    ∃ (s : Statement) (acts : List Act) (next : Db ρ), Inserts schema table chunk s ∧
      db.backend.Grown acts 1 next.backend ∧ Sends acts [s] ∧
        insertChunk options table schema report chunk db =
          (((answer db.backend.replies 0).map report.add).mapError report.stop,next) := by
  unfold insertChunk
  rw [bind_run,after_run]
  cases converting : chunkValues schema chunk with
  | error e => exact .inl ⟨e,rfl,rfl⟩
  | ok rows =>
    obtain ⟨s,built,inserts⟩ := insertStatement_inserts fillable table some full even converting
    obtain ⟨acts,next,grown,sends,ran⟩ := flush_run built options report ready
    exact .inr ⟨s,acts,next,inserts,grown,sends,ran⟩

-- How inserting goes on with these chunks, and which statements it sends: until a chunk fails.
inductive Course (schema : TableSchema) (table : Ident) : Report → List (List Csv.Record) →
    List Reply → List Statement → Except Stopped Report → Prop
  | finished : Course schema table report [] replies [] (.ok report)
  | unconverted (failed : chunkValues schema chunk = .error e) :
      Course schema table report (chunk :: rest) replies [] (.error (report.stop e))
  | refused (inserts : Inserts schema table chunk s) (refusal : answer replies 0 = .error e) :
      Course schema table report (chunk :: rest) replies [s] (.error (report.stop e))
  | inserted (inserts : Inserts schema table chunk s) (accepted : answer replies 0 = .ok n)
      (later : Course schema table (report.add n) rest replies.tail ss result) :
      Course schema table report (chunk :: rest) replies (s :: ss) result

theorem insertChunks_course {schema : TableSchema} (fillable : Fillable schema size)
    (options : Options) (table : Ident) {chunks : List (List Csv.Record)}
    (some : ∀ chunk ∈ chunks, chunk ≠ []) (full : ∀ chunk ∈ chunks, chunk.length ≤ size)
    (even : ∀ chunk ∈ chunks, ∀ r ∈ chunk, r.fields.length = schema.columns.length)
    (report : Report) {db : Db ρ} (ready : db.backend.availability.refusal? = none) :
    ∃ acts ss, db.backend.Grown acts ss.length
        (insertChunks options table schema report chunks db).2.backend ∧ Sends acts ss ∧
      Course schema table report chunks db.backend.replies ss
        (insertChunks options table schema report chunks db).1 := by
  induction chunks generalizing report db with
  | nil => exact ⟨[],[],.refl _,.nil,.finished⟩
  | cons chunk rest ih =>
    have further := ih (fun c member => some c (by simp [member]))
      (fun c member => full c (by simp [member])) fun c member => even c (by simp [member])
    unfold insertChunks
    rw [bind_run]
    rcases insertChunk_run fillable (some chunk (by simp)) (full chunk (by simp))
      (even chunk (by simp)) options report ready with
      ⟨e,failed,ran⟩ | ⟨s,acts,next,inserts,grown,sends,ran⟩
    · rw [ran]
      exact ⟨[],[],.refl _,.nil,.unconverted failed⟩
    · rw [ran]
      cases answered : answer db.backend.replies 0 with
      | error e => exact ⟨acts,[s],grown,sends,.refused inserts answered⟩
      | ok n =>
        have lent : next.backend.availability.refusal? = none := by rw [grown.availability,ready]
        obtain ⟨more,ss,later,others,course⟩ := further (report.add n) lent
        refine ⟨acts ++ more,s :: ss,?_,sends.append others,.inserted inserts answered ?_⟩
        · rw [List.length_cons,Nat.add_comm]
          exact grown.trans later
        · rwa [grown.replies,List.drop_one] at course

-- The first so many statements are answered with these counts.
def Accepts (replies : List Reply) (counts : List UInt64) : Prop :=
  ∀ i n, counts[i]? = some n → answer replies i = .ok n

theorem Accepts.cons (first : answer replies 0 = .ok n) (later : Accepts replies.tail counts) :
    Accepts replies (n :: counts) := by
  intro i m at_i
  cases i with
  | zero =>
    cases at_i
    exact first
  | succ i =>
    rw [← answer_tail]
    exact later i m (by simpa using at_i)

-- Where inserting ends: behind the last chunk, at a chunk that does not convert, or at one that is
-- refused. So many statements were accepted before.
inductive Halts (schema : TableSchema) (chunks : List (List Csv.Record)) (replies : List Reply)
    (report : Report) (accepted : Nat) : Nat → Except Stopped Report → Prop
  | finished (last : accepted = chunks.length) :
      Halts schema chunks replies report accepted accepted (.ok report)
  | unconverted (at_chunk : chunks[accepted]? = some chunk)
      (failed : chunkValues schema chunk = .error e) :
      Halts schema chunks replies report accepted accepted (.error (report.stop e))
  | refused (at_chunk : chunks[accepted]? = some chunk) (converts : ∀ r ∈ chunk, Converts schema r)
      (refusal : answer replies accepted = .error e) :
      Halts schema chunks replies report accepted (accepted + 1) (.error (report.stop e))

theorem Halts.later {chunks : List (List Csv.Record)} {replies : List Reply}
    (halts : Halts schema chunks replies.tail report accepted n result) :
    Halts schema (chunk :: chunks) replies report (accepted + 1) (n + 1) result := by
  cases halts with
  | finished last => exact .finished (by simpa using last)
  | unconverted at_chunk failed => exact .unconverted (by simpa using at_chunk) failed
  | refused at_chunk converts refusal =>
    rw [answer_tail] at refusal
    exact .refused (by simpa using at_chunk) converts refusal

theorem Halts.accepted_le {chunks : List (List Csv.Record)}
    (halts : Halts schema chunks replies report accepted n result) :
    accepted ≤ n := by
  cases halts with
  | finished | unconverted => exact Nat.le_refl _
  | refused => exact Nat.le_succ _

theorem Course.halts {chunks : List (List Csv.Record)}
    (course : Course schema table report chunks replies ss result) :
    ∃ counts, Accepts replies counts ∧
      Halts schema chunks replies (counts.foldl Report.add report) counts.length ss.length result ∧
        ∀ (i : Nat) s, ss[i]? = some s →
          ∃ chunk, chunks[i]? = some chunk ∧ Inserts schema table chunk s := by
  induction course with
  | finished => exact ⟨[],by simp [Accepts],.finished rfl,by simp⟩
  | unconverted failed => exact ⟨[],by simp [Accepts],.unconverted rfl failed,by simp⟩
  | refused inserts refusal =>
    refine ⟨[],by simp [Accepts],.refused rfl (Inserts.converts inserts) refusal,fun i s sent => ?_⟩
    cases i with
    | zero =>
      cases sent
      exact ⟨_,rfl,inserts⟩
    | succ i => simp at sent
  | inserted inserts accepted later ih =>
    obtain ⟨counts,accepts,halts,each⟩ := ih
    refine ⟨_ :: counts,accepts.cons accepted,halts.later,fun i s sent => ?_⟩
    cases i with
    | zero =>
      cases sent
      exact ⟨_,rfl,inserts⟩
    | succ i => exact each i s sent

end Load

end DataAccess
