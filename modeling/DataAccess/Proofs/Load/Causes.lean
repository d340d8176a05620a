import DataAccess.Proofs.Load.Refusals
import DataAccess.Proofs.Session.Answers

-- Why a load may fail that was not refused. The statement that inserts a chunk is never among the
-- causes: its table is spelled as it was read, its columns are named by the header, its rows are as
-- wide as the header, and there are few enough of them. What is left is what the pool, the backend
-- and the source tell.
namespace DataAccess

theorem Query.Insert.records_rejected {q : Insert} {rows : List Row}
    (fits : ∀ row ∈ rows, row.length = q.columns.length) : (q.records rows).rejected = q.rejected := by
  rw [records_fit fits]

namespace Load
open Query
open Programmed (bind_comes known_comes logged_comes read_comes after_comes reporting_comes
  ite_comes still_comes run_comes after_known_comes after_logged_comes)

-- The columns that a load fills: its own, with the types that a table has for them.
inductive Filled (schema : TableSchema) : TableSchema → Prop where
  | own : Filled schema schema
  | adopted (declared : List (String × String)) : Filled schema (schema.adopt declared)

theorem Filled.names {schema filled : TableSchema} (fills : Filled schema filled) :
    filled.columnNames = schema.columnNames := by
  cases fills with
  | own => rfl
  | adopted declared => exact schema.adopt_names declared

-- An INSERT of which nothing is rejected: neither its columns, before any row is added, nor a row as
-- the rows are added, nor the whole of it.
structure Insertable (table : Ident) (columns : List String) (rows : List Row) : Prop where
  added : ∀ n, (((Insert.ofTable table.sql).columnList columns).records (rows.take n)).rejected = none
  built : ∃ s, insertStatement table columns rows = .ok s

theorem Inserts.insertable {schema : TableSchema} {table : Ident} {records : List Csv.Record}
    {rows : List Row} (even : ∀ r ∈ records, r.fields.length = schema.columns.length)
    (read : chunkValues schema records = .ok rows)
    (built : insertStatement table schema.columnNames rows = .ok s)
    (inserts : Inserts schema table records s) : Insertable table schema.columnNames rows := by
  obtain ⟨columns,_,spelled,_⟩ := inserts
  have counted : schema.columns.length = columns.length := by
    simpa [TableSchema.columnNames] using congrArg List.length spelled.symm
  have fits := chunkValues_fit even read
  rw [counted] at fits
  rw [← spelled] at built ⊢
  refine ⟨fun n => ?_,s,built⟩
  rw [Insert.columnList_named]
  exact Insert.records_rejected fun row member => fits row (List.mem_of_mem_take member)

-- A chunk of what is handed over can be inserted if it converts, whichever types its columns have.
theorem Handed.insertable {options : Options} {source : Csv.Source} {handed : Feed}
    (positive : 0 < options.chunkSize) (whole : Handed options source.document handed)
    {schema : TableSchema} (names : schema.columnNames = handed.schema.columnNames)
    {chunk : List Csv.Record} (member : chunk ∈ handed.chunks)
    (read : chunkValues schema chunk = .ok rows) (table : Ident) :
    Insertable table schema.columnNames rows ∧
      ∃ s, insertStatement table schema.columnNames rows = .ok s ∧ Inserts schema table chunk s := by
  obtain ⟨header,own,counted⟩ := whole.width
  have even := Csv.Source.document_width own
  rw [← counted,← TableSchema.columns_length names] at even
  rw [whole.chunks] at member
  obtain ⟨some,full,wide⟩ := recordChunks_fit positive even source.document.fault chunk member
  obtain ⟨s,built,inserts⟩ := insertStatement_inserts (whole.fillable.renamed names) table some full
    wide read
  exact ⟨inserts.insertable wide read built,s,built,inserts⟩

-- Why a load may fail once it has begun, by the answers it has had: the pool or the backend failed,
-- the table could not be told from the rows that tell it, or is not there and not to be made, the
-- source is at fault, or a cell of it is not of the type of its column.
inductive Cause (options : Options) (table : Ident) (source : Csv.Source) :
    List (Except Error Outcome) → Error → Prop where
  | answered (before : List (Except Error Outcome)) (e : Error) :
      Cause options table source (before ++ [.error e]) e
  | untold (kept : options.dropIfExists = false) (told : existence outcome.toRows = .error e) :
      Cause options table source [.ok outcome] e
  | missing (kept : options.dropIfExists = false) (told : existence outcome.toRows = .ok false)
      (unmade : options.createIfNotExists = false) : Cause options table source [.ok outcome]
        (.query s!"table {table.sql} does not exist and create_if_not_exists is false" none)
  | undeclared (kept : options.dropIfExists = false) (told : existence there.toRows = .ok true)
      (undeclared : declaredColumns shown.toRows = .error e) :
      Cause options table source [.ok there,.ok shown] e
  | source (faulty : source.document.fault = some fault) :
      Cause options table source answers (.csv fault)
  | cell (fed : feed options source.document = .ok handed) (fills : Filled handed.schema filled)
      (member : record ∈ source.document.records) (j : Nat)
      (column : filled.columns[j]? = some (name,type)) (cell : record.fields[j]? = some text)
      (unlike : ColumnType.toValue type text = .error fault) :
      Cause options table source answers (.validation (.cell record.line name fault))

theorem valuesOf_error {columns : List (String × ColumnType)} {cells : List String}
    (failed : TableSchema.valuesOf line columns cells = .error e) :
    ∃ (j : Nat) (name : String) (type : ColumnType) (text : String) (fault : CellFault),
      columns[j]? = some (name,type) ∧ cells[j]? = some text ∧ type.toValue text = .error fault ∧
        e = .validation (.cell line name fault) := by
  induction columns generalizing cells with
  | nil =>
    unfold TableSchema.valuesOf at failed
    cases failed
  | cons column columns ih =>
    obtain ⟨name,type⟩ := column
    cases cells with
    | nil =>
      unfold TableSchema.valuesOf at failed
      cases failed
    | cons text cells =>
      unfold TableSchema.valuesOf at failed
      split at failed
      · rename_i fault unlike
        cases failed
        exact ⟨0,name,type,text,fault,rfl,rfl,unlike,rfl⟩
      · split at failed
        · rename_i further
          cases failed
          obtain ⟨j,rest⟩ := ih further
          exact ⟨j + 1,rest⟩
        · cases failed

theorem makeTable_comes {options : Options} {table : Ident} {schema : TableSchema}
    (comes : (Programmed.makeTable (ρ := ρ) options table schema).program.Comes answers result) :
    result = .ok schema ∨ ∃ e, answers = [.error e] ∧ result = .error e := by
  rcases bind_comes (logged_comes comes) with ⟨_,before,after,rfl,_,later⟩ | ⟨e,rfl,own⟩
  · exact .inl (still_comes (logged_comes later)).2
  · rcases read_comes own with ⟨_,_,⟨⟩⟩ | ⟨_,rfl,⟨⟩⟩
    exact .inr ⟨e,rfl,rfl⟩

theorem askExists_comes {table : Ident}
    (comes : (Programmed.askExists (ρ := ρ) table).program.Comes answers result) :
    (∃ outcome, answers = [.ok outcome] ∧ result = existence outcome.toRows) ∨
      ∃ e, answers = [.error e] ∧ result = .error e := by
  rcases bind_comes comes with ⟨rows,before,after,rfl,own,later⟩ | ⟨e,rfl,own⟩
  · obtain ⟨rfl,rfl⟩ := still_comes later
    rcases read_comes own with ⟨outcome,rfl,⟨⟩⟩ | ⟨_,_,⟨⟩⟩
    exact .inl ⟨outcome,rfl,rfl⟩
  · rcases read_comes own with ⟨_,_,⟨⟩⟩ | ⟨_,rfl,⟨⟩⟩
    exact .inr ⟨e,rfl,rfl⟩

theorem adopt_comes {options : Options} {table : Ident} {schema : TableSchema} {source : Csv.Source}
    (kept : options.dropIfExists = false) (told : existence there.toRows = .ok true)
    (comes : ((Programmed.queryRows (ρ := ρ) (tableColumns table)).bind fun rows =>
      (Programmed.still (declaredColumns rows)).bind fun declared =>
        (Programmed.log (.tableFound table.sql declared.length)).bind fun _ =>
          Programmed.still (.ok (schema.adopt declared))).program.Comes answers result) :
    (∃ filled, result = .ok filled ∧ Filled schema filled) ∨
      ∃ e, result = .error e ∧ Cause options table source ([.ok there] ++ answers) e := by
  rcases bind_comes comes with ⟨rows,before,after,rfl,own,later⟩ | ⟨e,rfl,own⟩
  · rcases read_comes own with ⟨shown,rfl,⟨⟩⟩ | ⟨_,_,⟨⟩⟩
    rcases known_comes later with ⟨declared,_,later⟩ | ⟨e,undeclared,rfl,rfl⟩
    · obtain ⟨_,rfl⟩ := still_comes (logged_comes later)
      exact .inl ⟨_,rfl,.adopted declared⟩
    · exact .inr ⟨e,rfl,.undeclared kept told undeclared⟩
  · rcases read_comes own with ⟨_,_,⟨⟩⟩ | ⟨_,rfl,⟨⟩⟩
    exact .inr ⟨e,rfl,.answered [.ok there] e⟩

-- A table is prepared, and the columns are filled as they are or as it declares them, or there is a
-- cause why it is not.
theorem prepareTable_comes {options : Options} {table : Ident} {schema : TableSchema}
    (source : Csv.Source)
    (comes : (Programmed.prepareTable (ρ := ρ) options table schema).program.Comes answers result) :
    (∃ filled, result = .ok filled ∧ Filled schema filled) ∨
      ∃ e, result = .error e ∧ Cause options table source answers e := by
  rcases ite_comes comes with ⟨dropped,comes⟩ | ⟨kept,comes⟩
  · rcases bind_comes comes with ⟨_,before,after,rfl,_,later⟩ | ⟨e,rfl,own⟩
    · rcases makeTable_comes (logged_comes later) with rfl | ⟨e,rfl,rfl⟩
      · exact .inl ⟨schema,rfl,.own⟩
      · exact .inr ⟨e,rfl,.answered before e⟩
    · rcases read_comes own with ⟨_,_,⟨⟩⟩ | ⟨_,rfl,⟨⟩⟩
      exact .inr ⟨e,rfl,.answered [] e⟩
  have kept : options.dropIfExists = false := by simpa using kept
  rcases bind_comes comes with ⟨found,before,after,rfl,own,later⟩ | ⟨e,rfl,own⟩
  · rcases askExists_comes own with ⟨there,rfl,told⟩ | ⟨_,_,⟨⟩⟩
    rcases ite_comes later with ⟨rfl,adopts⟩ | ⟨absent,makes⟩
    · exact adopt_comes kept told.symm adopts
    · have absent : found = false := by simpa using absent
      rw [absent] at told
      rcases ite_comes makes with ⟨unmade,ends⟩ | ⟨_,makes⟩
      · obtain ⟨rfl,rfl⟩ := still_comes ends
        exact .inr ⟨_,rfl,.missing kept told.symm (by simpa using unmade)⟩
      · rcases makeTable_comes makes with rfl | ⟨e,rfl,rfl⟩
        · exact .inl ⟨schema,rfl,.own⟩
        · exact .inr ⟨e,rfl,.answered _ e⟩
  · rcases askExists_comes own with ⟨there,rfl,untold⟩ | ⟨_,rfl,⟨⟩⟩
    · exact .inr ⟨e,rfl,.untold kept untold.symm⟩
    · exact .inr ⟨e,rfl,.answered [] e⟩

-- The key of a table is checked before anything is asked.
theorem openTable_comes {options : Options} {table : Ident} {schema : TableSchema}
    (source : Csv.Source)
    (comes : (Programmed.openTable (ρ := ρ) options table schema).program.Comes answers result) :
    (∃ filled, result = .ok filled ∧ Filled schema filled) ∨ ∃ stopped, result = .error stopped ∧
      (answers = [] ∨ Cause options table source answers stopped.cause) := by
  have prepares {answers result} (comes : (Programmed.after .empty
      (Programmed.prepareTable (ρ := ρ) options table schema)).program.Comes answers result) :
      (∃ filled, result = .ok filled ∧ Filled schema filled) ∨ ∃ stopped, result = .error stopped ∧
        (answers = [] ∨ Cause options table source answers stopped.cause) := by
    obtain ⟨inner,rfl,own⟩ := after_comes comes
    rcases prepareTable_comes source own with ⟨filled,rfl,fills⟩ | ⟨e,rfl,cause⟩
    · exact .inl ⟨filled,rfl,fills⟩
    · exact .inr ⟨_,rfl,.inr cause⟩
  rcases ite_comes comes with ⟨_,comes⟩ | ⟨_,comes⟩
  · rcases after_known_comes comes with ⟨_,_,later⟩ | ⟨e,_,none,rfl⟩
    · exact prepares later
    · exact .inr ⟨_,rfl,.inl none⟩
  · exact prepares comes

theorem flush_comes {options : Options} {table : Ident} {columns : List String} {report : Report}
    {rows : List Row} (built : insertStatement table columns rows = .ok s)
    (comes : (Programmed.flush (ρ := ρ) options table columns report rows).program.Comes
      answers result) :
    (∃ next, result = .ok next) ∨ ∃ e, answers = [.error e] ∧ result = .error (report.stop e) := by
  rcases after_known_comes comes with ⟨_,_,later⟩ | ⟨e,failed,_⟩
  · rcases bind_comes (after_logged_comes later) with ⟨n,before,after,rfl,_,last⟩ | ⟨x,rfl,own⟩
    · exact .inl ⟨_,(still_comes last).2⟩
    · obtain ⟨inner,same,own⟩ := after_comes own
      rcases read_comes (reporting_comes own) with ⟨_,_,rfl⟩ | ⟨e,rfl,rfl⟩
      · cases same
      · cases same
        exact .inr ⟨e,rfl,rfl⟩
  · cases built.symm.trans failed

-- Chunks that can be inserted if they convert are inserted, or there is an error of the last answer
-- or of a record that does not convert.
theorem insertChunks_comes {options : Options} {table : Ident} {schema : TableSchema}
    {chunks : List (List Csv.Record)}
    (insertable : ∀ chunk ∈ chunks, ∀ rows, chunkValues schema chunk = .ok rows →
      ∃ s, insertStatement table schema.columnNames rows = .ok s) {report : Report}
    (comes : (Programmed.insertChunks (ρ := ρ) options table schema report chunks).program.Comes
      answers result) :
    (∃ last, result = .ok last) ∨ ∃ stopped, result = .error stopped ∧
      ((∃ before, answers = before ++ [.error stopped.cause]) ∨
        ∃ chunk ∈ chunks, ∃ record ∈ chunk, converted schema record = .error stopped.cause) := by
  induction chunks generalizing report answers result with
  | nil => exact .inl ⟨report,(still_comes comes).2⟩
  | cons chunk chunks ih =>
    rcases bind_comes comes with ⟨next,before,after,rfl,_,later⟩ | ⟨x,rfl,own⟩
    · rcases ih (fun c member => insertable c (by simp [member])) later with
        done | ⟨stopped,same,⟨answered,rfl⟩ | ⟨c,member,unlike⟩⟩
      · exact .inl done
      · exact .inr ⟨stopped,same,.inl ⟨before ++ answered,by rw [List.append_assoc]⟩⟩
      · exact .inr ⟨stopped,same,.inr ⟨c,by simp [member],unlike⟩⟩
    · refine .inr ⟨x,rfl,?_⟩
      rcases after_known_comes own with ⟨rows,read,flushes⟩ | ⟨e,failed,_,same⟩
      · obtain ⟨s,built⟩ := insertable chunk (by simp) rows read
        rcases flush_comes built flushes with ⟨_,⟨⟩⟩ | ⟨e,rfl,⟨⟩⟩
        exact .inl ⟨[],rfl⟩
      · cases same
        obtain ⟨j,record,at_j,unlike,_⟩ := chunkValues_error.mp failed
        exact .inr ⟨chunk,by simp,record,List.mem_of_getElem? at_j,unlike⟩

theorem Handed.member {options : Options} {document : Csv.Document} {handed : Feed}
    (positive : 0 < options.chunkSize) (whole : Handed options document handed)
    {chunk : List Csv.Record} (member : chunk ∈ handed.chunks) : ∀ r ∈ chunk, r ∈ document.records := by
  rw [whole.chunks] at member
  obtain ⟨i,at_i⟩ := List.getElem?_of_mem member
  obtain ⟨_,rfl⟩ := (chunk_at positive).mp at_i
  intro r inside
  exact List.mem_of_mem_drop (List.mem_of_mem_take inside)

theorem conclude_comes {table : Ident} {report : Report} {fault : Option CsvFault}
    (comes : (Programmed.conclude (ρ := ρ) table report fault).program.Comes answers result) :
    result = concluded fault (.ok report) := by
  cases fault with
  | some fault => exact (still_comes comes).2
  | none => exact (still_comes (after_logged_comes comes)).2

-- Whatever was answered while the table was made ready, what fails then has its cause in what comes.
theorem inserts_cause {options : Options} {source : Csv.Source} {handed : Feed} {filled : TableSchema}
    (positive : 0 < options.chunkSize) (fed : feed options source.document = .ok handed)
    (fills : Filled handed.schema filled) {table : Ident}
    (comes : ((Programmed.insertChunks (ρ := ρ) options table filled .empty handed.chunks).bind
      fun report => Programmed.conclude table report handed.fault).program.Comes answers
        (.error stopped)) :
    Cause options table source (opened ++ answers) stopped.cause := by
  have whole := feed_handed fed
  have insertable : ∀ chunk ∈ handed.chunks, ∀ rows, chunkValues filled chunk = .ok rows →
      ∃ s, insertStatement table filled.columnNames rows = .ok s :=
    fun chunk member rows read => (whole.insertable positive fills.names member read table).1.built
  rcases bind_comes comes with ⟨report,before,after,rfl,_,concludes⟩ | ⟨x,same,own⟩
  · have ended := conclude_comes concludes
    cases faulty : handed.fault with
    | none =>
      rw [faulty] at ended
      cases ended
    | some fault =>
      rw [faulty] at ended
      cases ended
      exact .source (whole.fault.symm.trans faulty)
  · cases same
    rcases insertChunks_comes insertable own with
      ⟨_,⟨⟩⟩ | ⟨_,⟨⟩,⟨before,rfl⟩ | ⟨c,member,r,inside,unlike⟩⟩
    · rw [← List.append_assoc]
      exact .answered _ _
    · obtain ⟨j,name,type,text,fault,column,cell,unlike,told⟩ := valuesOf_error unlike
      rw [told]
      exact .cell fed fills (whole.member positive member r inside) j column cell unlike

theorem insertFeed_comes {options : Options} {source : Csv.Source} {handed : Feed}
    (positive : 0 < options.chunkSize) (fed : feed options source.document = .ok handed) {table : Ident}
    (comes : (Programmed.insertFeed (ρ := ρ) options table handed).program.Comes answers
      (.error stopped)) (asked : answers ≠ []) :
    Cause options table source answers stopped.cause := by
  rcases ite_comes comes with ⟨_,empty⟩ | ⟨_,comes⟩
  · cases (still_comes (after_logged_comes empty)).2
  rcases bind_comes comes with ⟨filled,opened,after,rfl,opens,inserts⟩ | ⟨x,same,opens⟩
  · rcases openTable_comes source opens with ⟨_,⟨⟩,fills⟩ | ⟨_,⟨⟩,_⟩
    exact inserts_cause positive fed fills inserts
  · cases same
    rcases openTable_comes source opens with ⟨_,⟨⟩,_⟩ | ⟨_,⟨⟩,none | cause⟩
    · exact absurd none asked
    · exact cause

theorem load_comes {options : Options} {name : String} {source : Csv.Source}
    (comes : (Programmed.load (ρ := ρ) options name source).program.Comes answers (.error stopped))
    (asked : answers ≠ []) :
    ∃ table, Ident.parse name = .ok table ∧ Cause options table source answers stopped.cause := by
  rcases after_known_comes comes with ⟨_,valid,comes⟩ | ⟨_,_,none,_⟩
  · rcases after_known_comes comes with ⟨table,named,comes⟩ | ⟨_,_,none,_⟩
    · rcases after_known_comes comes with ⟨handed,fed,comes⟩ | ⟨_,_,none,_⟩
      · exact ⟨table,named,insertFeed_comes (Options.validate_ok valid).1 fed comes asked⟩
      · exact absurd none asked
    · exact absurd none asked
  · exact absurd none asked

-- Nothing of an INSERT is rejected once a load has passed all that is checked up front: every chunk
-- that converts is made into a statement, whichever types a table fixes. So however the pool lends
-- and the backend answers, a load that has sent a statement fails for one of the causes alone; and
-- what runs on a database is one of the ways that a load may go.
theorem insert_not_rejected (options : Options) (name : String) (source : Csv.Source) :
    (∀ table handed, Accepted options name source table handed →
      ∀ schema : TableSchema, schema.columnNames = handed.schema.columnNames →
        ∀ chunk ∈ handed.chunks, ∀ rows, chunkValues schema chunk = .ok rows →
          Insertable table schema.columnNames rows ∧
            ∃ s, insertStatement table schema.columnNames rows = .ok s ∧
              Inserts schema table chunk s) ∧
    (∀ (ρ : Type) acts answers stopped, Progress.Goes
      (.going (Programmed.load (ρ := ρ) options name source).program) acts answers
        (.going (.done (.error stopped))) → Progress.Sends acts →
      ∃ table, Ident.parse name = .ok table ∧ Cause options table source answers stopped.cause) ∧
    ∀ (ρ : Type) (db : Db ρ), ∃ acts answers, Progress.Goes
      (.going (Programmed.load (ρ := ρ) options name source).program) acts answers
        (.going (.done (load options name source db).1)) ∧
      (load options name source db).2.backend.journal.toList =
        db.backend.journal.toList ++ acts := by
  refine ⟨?_,?_,?_⟩
  · intro table handed accepted schema names chunk member rows read
    have positive := (Options.validate_ok accepted.valid).1
    exact (feed_handed accepted.fed).insertable positive names member read table
  · intro ρ acts answers stopped goes sends
    exact load_comes goes.comes (goes.sent rfl sends)
  · intro ρ db
    rw [(Programmed.load options name source).runs]
    exact Progress.goes_run _ db

namespace Keyed

-- A backend that refuses the first INSERT.
def denying : Db Nat :=
  .ofBackend (.start .ready [.affected 0,.affected 0,.failure (.query "denied" none)])

end Keyed

-- A load of one record whose table is dropped and made, and whose INSERT the backend refuses.
theorem insert_not_rejected_keyed :
    Accepted (Keyed.options true true true) "t" Keyed.filled Sample.table Keyed.feed ∧
    chunkValues Keyed.feed.schema [⟨["1"],2⟩] = .ok [[.int 1]] ∧
    Insertable Sample.table ["a"] [[.int 1]] ∧
    ∃ acts answers, Progress.Goes (ρ := Nat)
      (.going (Programmed.load (Keyed.options true true true) "t" Keyed.filled).program) acts answers
        (.going (.done (load (Keyed.options true true true) "t" Keyed.filled Keyed.denying).1)) ∧
      (load (Keyed.options true true true) "t" Keyed.filled Keyed.denying).1 =
        .error ⟨0,.query "denied" none⟩ ∧ Progress.Sends acts ∧
      ∃ table, Ident.parse "t" = .ok table ∧
        Cause (Keyed.options true true true) table Keyed.filled answers (.query "denied" none) := by
  have accepted := Keyed.filled_accepted true true true
  obtain ⟨insertable,caused,goes⟩ := insert_not_rejected (Keyed.options true true true) "t" Keyed.filled
  have read : chunkValues Keyed.feed.schema [⟨["1"],2⟩] = .ok [[.int 1]] := by rfl
  have ran : load (Keyed.options true true true) "t" Keyed.filled Keyed.denying =
      insertFeed (Keyed.options true true true) Sample.table Keyed.feed Keyed.denying :=
    accepted.load_run Keyed.denying
  have failed : (insertFeed (Keyed.options true true true) Sample.table Keyed.feed Keyed.denying).1 =
      .error ⟨0,.query "denied" none⟩ := by rfl
  obtain ⟨acts,answers,gone,written⟩ := goes Nat Keyed.denying
  have dropped : (insertFeed (Keyed.options true true true) Sample.table Keyed.feed
      Keyed.denying).2.backend.journal.toList[1]? =
        some (.send .count "DROP TABLE IF EXISTS t" []) := by rfl
  have sends : Progress.Sends acts := by
    have member := List.mem_of_getElem? dropped
    rw [← ran,written] at member
    exact ⟨_,_,_,member⟩
  refine ⟨accepted,read,(insertable _ _ accepted _ rfl _ (by simp [Keyed.feed]) _ read).1,acts,answers,
    gone,by rw [ran,failed],sends,?_⟩
  rw [ran,failed] at gone
  exact caused _ _ _ _ gone sends

end Load
end DataAccess
