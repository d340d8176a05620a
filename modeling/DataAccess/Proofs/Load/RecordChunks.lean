import DataAccess.Proofs.Load.Refusals
import DataAccess.Proofs.Query.Rectangles
import DataAccess.Proofs.Session.Connections

-- Inserting records in chunks. What is wrong with the size, the table or the columns is found
-- before the first statement, and nothing is borrowed. Where nothing is, every chunk has its
-- statement, so that only the pool or the backend can end the inserting before the last one.
namespace DataAccess

namespace Query.Insert
open Failure

-- Rows change neither the table nor the columns.
theorem records_frame (q : Insert) (rows : List Row) :
    (q.records rows).table = q.table ∧ (q.records rows).columns = q.columns := by
  unfold records
  induction rows generalizing q with
  | nil => exact ⟨rfl,rfl⟩
  | cons row rows ih =>
    have own : (q.values row).table = q.table := by
      unfold values
      split <;> rfl
    rw [List.foldl_cons,(ih _).1,(ih _).2,own,values_columns]
    exact ⟨rfl,rfl⟩

theorem columnList_table (q : Insert) (names : List String) : (q.columnList names).table = q.table := by
  unfold columnList
  split <;> rfl

theorem build_error {q : Insert} {table : Ident} (named : q.table = .ok table)
    (failed : q.build = .error e) : ∃ fault, e = .validation fault := by
  unfold build Rejection.check at failed
  rw [named] at failed
  rcases bind_eq_error.mp failed with none | ⟨_,_,failed⟩
  · cases none
  · rcases bind_eq_error.mp failed with rejected | ⟨_,_,failed⟩
    · split at rejected <;> cases rejected
      exact ⟨_,rfl⟩
    · dsimp only at failed
      split at failed
      · cases failed
        exact ⟨_,rfl⟩
      · split at failed
        · cases failed
          exact ⟨_,rfl⟩
        · split at failed <;> cases failed
          exact ⟨_,rfl⟩

-- A statement is only made for columns that have names.
theorem columns_of_build {table : String} {names : List String} {rows : List Row}
    (built : (((ofTable table).columnList names).records rows).build = .ok s) :
    ∃ columns, Ident.parseAll names = .ok columns ∧ columns ≠ [] := by
  obtain ⟨_,_,accepted,listed,_⟩ := build_ok.mp built
  rw [(records_frame _ _).2] at listed
  have accepted := (foldl_gathers_accepted (fun q : Insert => q.rows.toList) (fun row => [row])
    values_accepted _ rows accepted).1
  unfold columnList at accepted listed
  cases read : Ident.parseAll names with
  | ok columns =>
    rw [read] at listed
    exact ⟨columns,rfl,listed⟩
  | error e =>
    rw [read] at accepted
    exact absurd accepted (reject_rejected _ _)

end Query.Insert

namespace Load
open Query Backend

-- Why no records are inserted, whatever the database does.
inductive Unfit (shape : Shape) (table : String) (size : Nat) : Prop where
  | noSize (zero : size = 0)
  | tooLarge (beyond : maxParameters < size * shape.fields.length)
  | tableName (unnamed : ∀ i : Ident, i.sql ≠ table)
  | columnName (listed : column ∈ shape.columns) (unnamed : ∀ i : Ident, i.sql ≠ column)
  | noField (none : shape.fields = [])

-- A table and columns that records can be inserted into, so many at a time.
structure Fit (shape : Shape) (size : Nat) (table : Ident) (columns : List Ident) : Prop where
  positive : 0 < size
  within : size * shape.fields.length ≤ maxParameters
  listed : columns.map Ident.sql = shape.columns
  some : columns ≠ []

def chunkStatement (table : Ident) (columns : List Ident) (rows : List Row) : Statement :=
  Statement.ofParts (Insert.parts table columns rows)

theorem columns_length {shape : Shape} {columns : List Ident}
    (listed : columns.map Ident.sql = shape.columns) : columns.length = shape.fields.length := by
  simpa [Shape.columns] using congrArg List.length listed

theorem fit_of_not_unfit {shape : Shape} (fine : ¬Unfit shape table size) :
    ∃ t columns, Ident.sql t = table ∧ Fit shape size t columns := by
  have positive : size ≠ 0 := fun zero => fine (.noSize zero)
  have within : ¬maxParameters < size * shape.fields.length := fun beyond => fine (.tooLarge beyond)
  obtain ⟨t,named⟩ : ∃ t : Ident, t.sql = table :=
    Classical.byContradiction fun none => fine (.tableName (not_exists.mp none))
  have spelled : ∀ column ∈ shape.columns, ∃ i : Ident, i.sql = column := fun column listed =>
    Classical.byContradiction fun none => fine (.columnName listed (not_exists.mp none))
  obtain ⟨columns,read⟩ := Ident.parseAll_named spelled
  have listed := Ident.parseAll_ok.mp read
  refine ⟨t,columns,named,by omega,by omega,listed,?_⟩
  rintro rfl
  exact fine (.noField (List.length_eq_zero_iff.mp (columns_length listed).symm))

theorem Fit.builds {shape : Shape} (fit : Fit shape size table columns) {rows : List Row}
    (filled : rows ≠ []) (full : rows.length ≤ size)
    (even : ∀ row ∈ rows, row.length = shape.fields.length) :
    (recordsInsert shape table.sql rows).build = .ok (chunkStatement table columns rows) := by
  have number := columns_length fit.listed
  rw [recordsInsert,Insert.forRecord,← fit.listed]
  refine Insert.build_listed table fit.some filled (fun row member => ?_) ?_
  · rw [number,even row member]
  · rw [number]
    exact Nat.le_trans (Nat.mul_le_mul_right _ full) fit.within

theorem Unfit.not_built {shape : Shape} (unfit : Unfit shape table size) (positive : size ≠ 0)
    (within : size * shape.fields.length ≤ maxParameters) (named : Ident.parse table = .ok t)
    (rows : List Row) : ∃ fault, (recordsInsert shape table rows).build = .error (.validation fault) := by
  cases building : (recordsInsert shape table rows).build with
  | error e =>
    have own : (recordsInsert shape table rows).table = .ok t := by
      rw [recordsInsert,(Insert.records_frame _ _).1,Insert.forRecord,Insert.columnList_table]
      exact named
    obtain ⟨fault,rfl⟩ := Insert.build_error own building
    exact ⟨fault,rfl⟩
  | ok s =>
    obtain ⟨columns,read,listed⟩ := Insert.columns_of_build building
    have spelled := Ident.parseAll_ok.mp read
    cases unfit with
    | noSize zero => exact absurd zero positive
    | tooLarge beyond => exact absurd beyond (Nat.not_lt.mpr within)
    | tableName unnamed => exact absurd (Ident.sql_parse named) (unnamed t)
    | columnName inside unnamed =>
      rw [← spelled] at inside
      obtain ⟨i,_,own⟩ := List.mem_map.mp inside
      exact absurd own (unnamed i)
    | noField none =>
      have zero := columns_length spelled
      rw [none] at zero
      exact absurd (List.length_eq_zero_iff.mp zero) listed

-- What a chunk comes to, with its statement, by what comes of the statement.
def chunkEnding (shape : Shape) (table : String) (report : Report) (rows : List Row)
    (rest : List (List Row)) : Except Error Outcome → Program ρ (Except Stopped Report)
  | .ok outcome => .log (.recordsChunk table rows.length)
      (Programmed.insertRowChunks shape table (report.add outcome.count) rest).program
  | .error e => .done (.error (report.stop e))

theorem insertRowChunks_program {shape : Shape} {table : String} {rows : List Row}
    (built : (recordsInsert shape table rows).build = .ok s) (report : Report)
    (rest : List (List Row)) :
    (Programmed.insertRowChunks (ρ := ρ) shape table report (rows :: rest)).program =
      .borrow (.statement s .count) (chunkEnding shape table report rows rest) := by
  have inserting : (Programmed.insert (ρ := ρ) (recordsInsert shape table rows)).program =
      (Programmed.execute s).program := by
    simp only [Programmed.insert,Programmed.bind,Programmed.still,Program.bind,built]
  rw [Programmed.insertRowChunks]
  change Program.bind (Program.bind (Programmed.insert _).program _) _ = _
  rw [inserting]
  refine congrArg (Program.borrow (.statement s .count)) (funext fun result => ?_)
  cases result <;> rfl

theorem insertRowChunks_unbuilt {shape : Shape} {table : String} {rows : List Row}
    (failed : (recordsInsert shape table rows).build = .error e) (report : Report)
    (rest : List (List Row)) :
    (Programmed.insertRowChunks (ρ := ρ) shape table report (rows :: rest)).program =
      .done (.error (report.stop e)) := by
  simp only [Programmed.insertRowChunks,Programmed.insert,Programmed.after,Programmed.bind,
    Programmed.still,Program.bind,failed]
  rfl

def closing (table : String) : Except Stopped Report → Program ρ (Except Stopped Report)
  | .ok report =>
    .log (.recordsInserted table report.rowsInserted report.batches) (.done (.ok report))
  | .error stopped => .done (.error stopped)

theorem closing_ends (table : String) (result : Except Stopped Report) :
    (closing (ρ := ρ) table result).Ends (· = result) := by
  cases result <;> rfl

theorem insertRecords_program {type : RecordType σ} {records : List σ} {table : String}
    (some : records ≠ []) (positive : size ≠ 0) (within : size * type.fields.length ≤ maxParameters)
    (named : Ident.parse table = .ok t) :
    (Programmed.insertRecords (ρ := ρ) type table records size).program =
      (Programmed.insertRowChunks type.toShape table .empty
        (chunks size (records.map type.toValues))).program.bind (closing table) := by
  have filled : ¬records.isEmpty = true := fun none => some (List.isEmpty_iff.mp none)
  simp only [Programmed.insertRecords,Programmed.ite,if_neg positive,if_neg filled,Programmed.bind,
    Programmed.after,Programmed.still,Program.bind,checkBindLimit_ok.mpr within,named]
  refine congrArg (Program.bind (Programmed.insertRowChunks type.toShape table .empty
    (chunks size (records.map type.toValues))).program) (funext fun result => ?_)
  cases result <;> rfl

-- Nothing is borrowed for what is unfit.
theorem Unfit.program {type : RecordType σ} {records : List σ}
    (unfit : Unfit type.toShape table size) (some : records ≠ []) : ∃ fault,
      (Programmed.insertRecords (ρ := ρ) type table records size).program =
        .done (.error (.atStart (.validation fault))) := by
  have filled : ¬records.isEmpty = true := fun none => some (List.isEmpty_iff.mp none)
  by_cases positive : size = 0
  · refine ⟨.zeroChunk,?_⟩
    simp only [Programmed.insertRecords,Programmed.ite,if_pos positive]
    rfl
  by_cases within : size * type.fields.length ≤ maxParameters
  · cases named : Ident.parse table with
    | error e =>
      obtain ⟨fault,rfl⟩ := Ident.parse_error named
      refine ⟨fault,?_⟩
      simp only [Programmed.insertRecords,Programmed.ite,if_neg positive,if_neg filled,Programmed.bind,
        Programmed.after,Programmed.still,Program.bind,checkBindLimit_ok.mpr within,named]
      rfl
    | ok t =>
      have rows : ¬(size = 0 ∨ records.map type.toValues = []) := by simp [positive,some]
      obtain ⟨fault,failed⟩ := unfit.not_built positive within named
        ((records.map type.toValues).take size)
      refine ⟨fault,?_⟩
      rw [insertRecords_program some positive within named,chunks,if_neg rows,
        insertRowChunks_unbuilt failed]
      rfl
  · obtain ⟨fault,beyond⟩ := checkBindLimit_error within
    refine ⟨fault,?_⟩
    simp only [Programmed.insertRecords,Programmed.ite,if_neg positive,if_neg filled,Programmed.bind,
      Programmed.after,Programmed.still,Program.bind,beyond]
    rfl

-- What inserting so many chunks comes to, by what is answered: by every chunk with an outcome, or
-- by one with an error, which is then the last.
inductive Settles (report : Report) (number : Nat) :
    List (Except Error Outcome) → Except Stopped Report → Prop where
  | complete (outcomes : List Outcome) (all : outcomes.length = number) :
      Settles report number (outcomes.map .ok)
        (.ok ((outcomes.map Outcome.count).foldl Report.add report))
  | failed (outcomes : List Outcome) (e : Error) (short : outcomes.length < number) :
      Settles report number (outcomes.map .ok ++ [.error e])
        (.error (((outcomes.map Outcome.count).foldl Report.add report).stop e))

theorem Settles.later {outcome : Outcome}
    (settles : Settles (report.add outcome.count) number answers result) :
    Settles report (number + 1) (.ok outcome :: answers) result := by
  cases settles with
  | complete outcomes all => exact .complete (outcome :: outcomes) (congrArg (· + 1) all)
  | failed outcomes e short => exact .failed (outcome :: outcomes) e (Nat.succ_lt_succ short)

theorem closing_goes {table : String} {stated : Except Stopped Report}
    (goes : Progress.Goes (ρ := ρ) (.going (closing table stated)) acts answers (.going (.done result))) :
    answers = [] ∧ result = stated := by
  have closed : Progress.Ends (· = stated) (.going (closing (ρ := ρ) table stated)) := closing_ends table _
  exact goes.ends closed

-- The statements of a backend that lends are answered by its replies, in their order.
def AnsweredBy (replies : List Reply) (answers : List (Except Error Outcome)) : Prop :=
  ∀ (i : Nat) came, answers[i]? = some came → outcomeOf .count replies[i]? = came

theorem AnsweredBy.cons {replies : List Reply} (later : AnsweredBy replies.tail answers) :
    AnsweredBy replies (outcomeOf .count replies.head? :: answers) := by
  intro i came at_i
  cases i with
  | zero =>
    cases at_i
    rw [List.head?_eq_getElem?]
  | succ i =>
    rw [← List.getElem?_tail]
    exact later i came (by simpa using at_i)

section Chunks

variable {shape : Shape} {table : String} {say : List Row → Statement} {chunks : List (List Row)}
  (built : ∀ rows ∈ chunks, (recordsInsert shape table rows).build = .ok (say rows))

include built

theorem insertRowChunks_settles (report : Report) (goes : Progress.Goes
      (.going ((Programmed.insertRowChunks (ρ := ρ) shape table report chunks).program.bind (closing table)))
      acts answers (.going (.done result))) : Settles report chunks.length answers result := by
  -- An error of the errand is the end, wherever it is from; only an outcome leads on to the rest.
  induction chunks generalizing report acts answers with
  | nil =>
    obtain ⟨rfl,rfl⟩ := closing_goes goes
    exact .complete [] rfl
  | cons rows rest ih =>
    rw [insertRowChunks_program (built rows (by simp))] at goes
    cases goes.course with
    | refused e further =>
      obtain ⟨rfl,rfl⟩ := closing_goes further
      exact .failed [] e (Nat.succ_pos _)
    | @answered came _ _ _ reply same further =>
      cases came with
      | error e =>
        obtain ⟨rfl,rfl⟩ := closing_goes further
        exact .failed [] e (Nat.succ_pos _)
      | ok outcome =>
        cases further with
        | step moves further =>
          cases moves with
          | log => exact (ih (fun r member => built r (by simp [member])) _ further).later

theorem insertRowChunks_run (report : Report) {db : Db ρ} (ready : db.backend.availability.refusal? = none) :
    ∃ acts answers result next,
      ((Programmed.insertRowChunks shape table report chunks).program.bind (closing table)).run db =
        (result,next) ∧
      db.backend.Grown acts answers.length next.backend ∧
      Sends acts ((chunks.take answers.length).map say) ∧
      AnsweredBy db.backend.replies answers ∧ Settles report chunks.length answers result := by
  induction chunks generalizing report db with
  | nil => exact ⟨_,[],_,_,rfl,log_grown _ _,.logged _,by simp [AnsweredBy],.complete [] rfl⟩
  | cons rows rest ih =>
    have own := built rows (by simp)
    obtain ⟨answered,grown⟩ := perform_ready ready (say rows) .count
    have sends := Sends.exchanged (say rows) (outcomeOf .count db.backend.replies.head?)
    have first : AnsweredBy db.backend.replies [outcomeOf .count db.backend.replies.head?] :=
      .cons (by simp [AnsweredBy])
    rw [insertRowChunks_program own,Program.bind,Program.run_borrow,← Errand.perform_statement,answered]
    cases came : outcomeOf .count db.backend.replies.head? with
    | error e =>
      rw [came] at grown sends first
      exact ⟨_,[.error e],_,_,rfl,grown,sends,first,.failed [] e (Nat.succ_pos _)⟩
    | ok outcome =>
      let told : Db ρ :=
        { db with backend := (db.backend.perform (say rows) .count).2.log (.recordsChunk table rows.length) }
      have onward := grown.trans (log_grown _ (.recordsChunk table rows.length))
      have lent : told.backend.availability.refusal? = none := by rw [onward.availability,ready]
      obtain ⟨acts,answers,result,next,ran,more,others,replied,settles⟩ :=
        ih (fun r member => built r (by simp [member])) (report.add outcome.count) lent
      have whole := onward.trans more
      rw [Nat.add_comm] at whole
      rw [onward.replies,List.drop_one] at replied
      exact ⟨_,.ok outcome :: answers,result,next,ran,whole,
        (sends.append (.logged (.recordsChunk table rows.length))).append others,came ▸ replied.cons,
        settles.later⟩

-- Where no connection is lent, the first statement is the last.
theorem insertRowChunks_denied (filled : chunks ≠ []) (report : Report) {db : Db ρ}
    (denied : db.backend.availability.refusal? = some e) : ∃ event,
      ((Programmed.insertRowChunks shape table report chunks).program.bind (closing table)).run db =
        (.error (report.stop e),{ db with backend := db.backend.log event }) := by
  obtain ⟨rows,rest,rfl⟩ := List.exists_cons_of_ne_nil filled
  have performed := perform_denied denied (say rows) .count
  rw [Errand.perform_statement] at performed
  rw [insertRowChunks_program (built rows (by simp))]
  refine ⟨.connectionDenied (QueryType.ofSql (say rows).sql) e,?_⟩
  rw [Program.bind,Program.run_borrow,performed]
  rfl

end Chunks

theorem Settles.length_le (settles : Settles report number answers result) : answers.length ≤ number := by
  cases settles with
  | complete outcomes all => simp [all]
  | failed outcomes e short =>
    rw [List.length_append,List.length_map]
    exact short

-- Where inserting so many chunks ends by the replies: after how many statements, and with what.
inductive Stops (number : Nat) (replies : List Reply) : Nat → Except Stopped Report → Prop where
  | complete (committed : Committed replies number total) :
      Stops number replies number (.ok ⟨total,number⟩)
  | refused (short : i < number) (committed : Committed replies i total)
      (refusal : answer replies i = .error e) : Stops number replies (i + 1) (.error ⟨total,e⟩)

theorem Accepts.committed {replies : List Reply} {counts : List UInt64} (accepts : Accepts replies counts)
    (script : inAll (replies.map changes) < UInt64.size) : ∃ total,
      Committed replies counts.length total ∧
        counts.foldl Report.add Report.empty = ⟨total,counts.length⟩ := by
  have same := accepts.total script
  exact ⟨_,⟨counts,rfl,accepts,same⟩,report_eq same⟩

theorem AnsweredBy.accepts {replies : List Reply} {outcomes : List Outcome}
    (replied : AnsweredBy replies answers) (first : outcomes.map .ok <+: answers) :
    Accepts replies (outcomes.map Outcome.count) := by
  obtain ⟨rest,rfl⟩ := first
  intro i n at_i
  rw [List.getElem?_map,Option.map_eq_some_iff] at at_i
  obtain ⟨outcome,own,rfl⟩ := at_i
  obtain ⟨inside,_⟩ := List.getElem?_eq_some_iff.mp own
  have came := replied i (.ok outcome) (by
    rw [List.getElem?_append_left (by simpa using inside),List.getElem?_map,own]
    rfl)
  rw [answer,came]
  rfl

theorem Settles.stops {replies : List Reply} (replied : AnsweredBy replies answers)
    (script : inAll (replies.map changes) < UInt64.size)
    (settles : Settles Report.empty number answers result) :
    Stops number replies answers.length result := by
  cases settles with
  | complete outcomes all =>
    obtain ⟨total,committed,report⟩ := (replied.accepts (List.prefix_refl _)).committed script
    rw [List.length_map,all] at committed report
    rw [List.length_map,all,report]
    exact .complete committed
  | failed outcomes e short =>
    obtain ⟨total,committed,report⟩ := (replied.accepts (List.prefix_append _ _)).committed script
    have refusal := replied outcomes.length (.error e) (by simp)
    rw [List.length_map] at committed
    rw [report,List.length_append,List.length_map]
    exact .refused short committed (by rw [answer,refusal]; rfl)

theorem Committed.answered {replies : List Reply} (committed : Committed replies n total) (before : i < n) :
    ∃ count, answer replies i = .ok count := by
  obtain ⟨counts,rfl,accepts,_⟩ := committed
  exact ⟨_,accepts i _ (List.getElem?_eq_getElem before)⟩

theorem Committed.unique {replies : List Reply} (first : Committed replies n total)
    (second : Committed replies n other) : other = total := by
  obtain ⟨counts,rfl,accepts,same⟩ := first
  obtain ⟨others,length,accepts',same'⟩ := second
  obtain rfl := accepts.unique accepts' length.symm
  exact UInt64.toNat_inj.mp (same'.trans same.symm)

theorem Stops.unique {replies : List Reply} (first : Stops number replies n result)
    (second : Stops number replies m other) : m = n ∧ other = result := by
  cases first with
  | complete committed =>
    cases second with
    | complete committed' => exact ⟨rfl,by rw [committed.unique committed']⟩
    | refused short _ refusal =>
      obtain ⟨count,accepted⟩ := committed.answered short
      cases refusal.symm.trans accepted
  | @refused i _ _ short committed refusal =>
    cases second with
    | complete committed' =>
      obtain ⟨count,accepted⟩ := committed'.answered short
      cases refusal.symm.trans accepted
    | @refused j _ _ short' committed' refusal' =>
      rcases Nat.lt_trichotomy i j with before | rfl | after
      · obtain ⟨count,accepted⟩ := committed'.answered before
        cases refusal.symm.trans accepted
      · cases refusal.symm.trans refusal'
        exact ⟨rfl,by rw [committed.unique committed']⟩
      · obtain ⟨count,accepted⟩ := committed.answered after
        cases refusal'.symm.trans accepted

-- The statement that inserts the records of one slice.
def sliceStatement (type : RecordType σ) (table : Ident) (columns : List Ident) (size : Nat)
    (records : List σ) (i : Nat) : Statement :=
  chunkStatement table columns ((slice size records i).map type.toValues)

-- What inserting records comes to where nothing is wrong with what was asked for: the records are
-- inserted slice by slice, where connections are lent, until the backend refuses a statement; and if
-- it is left open each time what the pool and the backend do, their errors alone end it early.
structure InsertsRecords (type : RecordType σ) (table : Ident) (columns : List Ident)
    (records : List σ) (size : Nat) (db : Db ρ) : Prop where
  whole : (List.range ((records.length + size - 1) / size)).flatMap (slice size records) = records
  binds : ∀ i, (sliceStatement type table columns size records i).params.toList =
    (slice size records i).flatMap type.toValues
  lent : db.backend.availability.refusal? = none → ∃ acts sent,
    (insertRecords type table.sql records size db).2.backend.journal.toList =
      db.backend.journal.toList ++ acts ∧
    Sends acts ((List.range sent).map (sliceStatement type table columns size records)) ∧
    ∀ n result, Stops ((records.length + size - 1) / size) db.backend.replies n result ↔
      n = sent ∧ result = (insertRecords type table.sql records size db).1
  denied : ∀ e, db.backend.availability.refusal? = some e → ∃ event,
    insertRecords type table.sql records size db =
      (.error (.atStart e),{ db with backend := db.backend.log event })
  settles : ∀ acts answers result, Progress.Goes
    (.going (Programmed.insertRecords (ρ := ρ) type table.sql records size).program) acts answers
      (.going (.done result)) → Settles .empty ((records.length + size - 1) / size) answers result

section Records

variable {type : RecordType σ} {table : Ident} {columns : List Ident} {records : List σ} {size : Nat}

theorem Fit.built (fit : Fit type.toShape size table columns)
    (full : ∀ r, (type.toValues r).length = type.fields.length) (records : List σ) :
    ∀ rows ∈ chunks size (records.map type.toValues),
      (recordsInsert type.toShape table.sql rows).build = .ok (chunkStatement table columns rows) := by
  intro rows member
  obtain ⟨filled,short,inside⟩ := chunks_fit member
  refine fit.builds filled short fun row own => ?_
  obtain ⟨r,_,rfl⟩ := List.mem_map.mp (inside row own)
  exact full r

theorem Fit.program (fit : Fit type.toShape size table columns) (some : records ≠ []) :
    (Programmed.insertRecords (ρ := ρ) type table.sql records size).program =
      (Programmed.insertRowChunks type.toShape table.sql .empty
        (chunks size (records.map type.toValues))).program.bind (closing table.sql) :=
  insertRecords_program some (Nat.ne_of_gt fit.positive) fit.within (Ident.parse_sql table)

theorem chunkStatements_eq (positive : 0 < size) (records : List σ) :
    (chunks size (records.map type.toValues)).map (chunkStatement table columns) =
      (List.range ((records.length + size - 1) / size)).map
        (sliceStatement type table columns size records) := by
  rw [chunks_eq positive,List.length_map,List.map_map]
  exact List.map_congr_left fun i _ => congrArg _ (slice_map size records type.toValues i)

theorem Fit.inserts (fit : Fit type.toShape size table columns) (some : records ≠ [])
    (full : ∀ r, (type.toValues r).length = type.fields.length) {db : Db ρ}
    (script : inAll (db.backend.replies.map changes) < UInt64.size) :
    InsertsRecords type table columns records size db := by
  have built := fit.built full records
  have program := fit.program (ρ := ρ) some
  have runs := (Programmed.insertRecords (ρ := ρ) type table.sql records size).runs db
  have said : (chunks size (records.map type.toValues)).map (chunkStatement table columns) = _ :=
    chunkStatements_eq fit.positive records
  have number : (chunks size (records.map type.toValues)).length =
      (records.length + size - 1) / size := by simpa using congrArg List.length said
  rw [program] at runs
  refine ⟨?_,fun i => ?_,fun ready => ?_,fun e denied => ?_,fun acts answers result goes => ?_⟩
  · rw [List.flatMap_def,← chunks_eq fit.positive,chunks_flatten fit.positive]
  · rw [sliceStatement,chunkStatement,Statement.ofParts_params,Insert.values_parts,List.flatMap_def]
  · obtain ⟨acts,answers,result,next,ran,grown,sends,replied,settles⟩ :=
      insertRowChunks_run built .empty ready
    have stops := settles.stops replied script
    have within := settles.length_le
    rw [number] at stops within
    rw [runs,ran]
    refine ⟨acts,answers.length,grown.journal,?_,fun n other => ⟨stops.unique,?_⟩⟩
    · rwa [List.map_take,said,← List.map_take,List.take_range,Nat.min_eq_left within] at sends
    · rintro ⟨rfl,rfl⟩
      exact stops
  · have filled : chunks size (records.map type.toValues) ≠ [] := by
      rw [chunks,if_neg (by simp [Nat.ne_of_gt fit.positive,some])]
      exact List.cons_ne_nil _ _
    rw [runs]
    exact insertRowChunks_denied built filled .empty denied
  · rw [program] at goes
    rw [← number]
    exact insertRowChunks_settles built .empty goes

end Records

theorem Unfit.refused {type : RecordType σ} {records : List σ} (unfit : Unfit type.toShape table size)
    (some : records ≠ []) (db : Db ρ) : ∃ fault,
      insertRecords type table records size db = (.error (.atStart (.validation fault)),db) := by
  obtain ⟨fault,program⟩ := unfit.program (ρ := ρ) some
  refine ⟨fault,?_⟩
  rw [(Programmed.insertRecords type table records size).runs,program]
  rfl

-- Records of a type with a value for each of its fields. What is unfit is refused and nothing is done
-- to the database. Anything else is inserted slice by slice, one statement for each, up to the first
-- that is refused, and what is told of the rows is what the statements before it changed.
theorem records_inserted_by_slices {type : RecordType σ} {records : List σ} (table : String) (size : Nat)
    {db : Db ρ} (some : records ≠ []) (full : ∀ r, (type.toValues r).length = type.fields.length)
    (script : inAll (db.backend.replies.map changes) < UInt64.size) :
    (Unfit type.toShape table size → ∃ fault,
      insertRecords type table records size db = (.error (.atStart (.validation fault)),db)) ∧
    (¬Unfit type.toShape table size → ∃ t columns, Ident.sql t = table ∧
      columns.map Ident.sql = type.columns ∧ InsertsRecords type t columns records size db) := by
  refine ⟨fun unfit => unfit.refused some db,fun fine => ?_⟩
  obtain ⟨t,columns,named,fit⟩ := fit_of_not_unfit fine
  exact ⟨t,columns,named,fit.listed,fit.inserts some full script⟩

namespace Sample

-- Records of one number, inserted two at a time; the second statement is refused.
def tally : RecordType Int64 where
  name := "Tally"
  model := "Tally"
  table := "tallies"
  fields := [⟨0,"n",.int,false⟩]
  ofRow row := row.get 0 Value.toInt64
  toValues n := [.int n]

def partly : Db Nat :=
  .ofBackend (.start .ready [.affected 2,.failure (.query "denied" none),.affected 1])

end Sample

theorem records_inserted_by_slices_partly :
    (∃ fault, insertRecords Sample.tally "t" [1,2,3] 0 Sample.partly =
      (.error (.atStart (.validation fault)),Sample.partly)) ∧
    (insertRecords Sample.tally "t" [1,2,3] 2 Sample.partly).1 =
      .error ⟨2,.query "denied" none⟩ := by
  have full : ∀ r, (Sample.tally.toValues r).length = Sample.tally.fields.length := fun _ => rfl
  have script : inAll (Sample.partly.backend.replies.map changes) < UInt64.size := by decide
  have fine : ¬Unfit Sample.tally.toShape "t" 2 := by
    intro unfit
    cases unfit with
    | noSize zero => cases zero
    | tooLarge beyond => exact absurd beyond (by decide)
    | tableName unnamed => exact unnamed Sample.table rfl
    | columnName listed unnamed =>
      cases List.mem_singleton.mp listed
      exact unnamed ⟨["n"],by decide,by decide⟩ rfl
    | noField none => cases none
  have some : ([1,2,3] : List Int64) ≠ [] := by decide
  refine ⟨(records_inserted_by_slices "t" 0 some full script).1 (.noSize rfl),?_⟩
  obtain ⟨t,columns,named,_,inserts⟩ := (records_inserted_by_slices "t" 2 some full script).2 fine
  obtain ⟨_,_,_,_,ends⟩ := inserts.lent rfl
  have accepts : Accepts Sample.partly.backend.replies [2] := by
    intro i n at_i
    cases i with
    | zero => cases at_i; rfl
    | succ i => simp at at_i
  rw [named] at ends
  exact ((ends _ _).mp (.refused (by decide) ⟨[2],rfl,accepts,rfl⟩ rfl)).2.symm

end Load

end DataAccess
