import DataAccess.Proofs.Csv.Documents
import DataAccess.Proofs.Ident.Spelling
import DataAccess.Proofs.Load.Endings
import DataAccess.Proofs.Load.Headers
import DataAccess.Proofs.Load.Opening

-- Loads that are refused before the database is asked for anything: for their options, for the name
-- of the table, or for what the source has in its header and in the records that are sampled. Every
-- other load of a source with records borrows a connection.
namespace DataAccess
open Backend

theorem Backend.Grown.acquired {b c : Backend} (grown : b.Grown acts taken c) :
    c.acquired = b.acquired + acts.count .acquire := by
  simp [Backend.acquired,grown.journal]

-- Tasks that borrow a connection if one is lent.
def Borrows (task : ExceptT ε (StateM (Db ρ)) α) : Prop := ∀ db : Db ρ,
  db.backend.availability.refusal? = none → db.backend.acquired < (task db).2.backend.acquired

namespace Borrows

theorem of_performs {task : ExceptT ε (StateM (Db ρ)) α}
    (performs : ∀ replies, ∃ asked result, asked ≠ [] ∧ Performs task replies asked result) :
    Borrows task := by
  intro db lent
  obtain ⟨asked,result,some,performed⟩ := performs db.backend.replies
  obtain ⟨acts,next,grown,asks,ran⟩ := performed db lent rfl
  rw [ran,grown.acquired,asks.acquired]
  exact Nat.lt_add_of_pos_right (List.length_pos_iff.mpr some)

theorem bind {first : ExceptT ε (StateM (Db ρ)) α} {next : α → ExceptT ε (StateM (Db ρ)) β}
    (head : Borrows first) (tail : ∀ a, Grows (next a)) : Borrows (first >>= next) := by
  intro db lent
  have borrowed := head db lent
  rw [bind_run]
  cases ran : first db with
  | mk result middle =>
    rw [ran] at borrowed
    cases result with
    | error e => exact borrowed
    | ok a =>
      obtain ⟨acts,taken,grown⟩ := tail a middle
      change db.backend.acquired < (next a middle).2.backend.acquired
      rw [grown.acquired]
      exact Nat.lt_add_right _ borrowed

end Borrows

namespace Grows

theorem tryCatch {task : Task ρ α} {caught : Error → Task ρ α} (head : Grows task)
    (tail : ∀ e, Grows (caught e)) : Grows (tryCatch task caught) := by
  intro db
  obtain ⟨acts,taken,grown⟩ := head db
  rw [catch_run]
  cases tried : task db with
  | mk result middle =>
    rw [tried] at grown
    cases result with
    | ok a => exact ⟨acts,taken,grown⟩
    | error e =>
      obtain ⟨more,later,further⟩ := tail e middle
      exact ⟨_,_,grown.trans further⟩

end Grows

namespace Load
open Failure

theorem insertChunks_grows (options : Options) (table : Ident) (schema : TableSchema) (report : Report)
    (chunks : List (List Csv.Record)) : Grows (ρ := ρ) (insertChunks options table schema report chunks) := by
  induction chunks generalizing report with
  | nil => exact Grows.still (.ok report)
  | cons chunk chunks ih =>
    unfold insertChunks insertChunk flush
    refine Grows.bind ?_ fun next => ih next
    refine (Grows.after report (.still (chunkValues schema chunk))).bind fun rows => ?_
    refine (Grows.after report (.still (insertStatement table schema.columnNames rows))).bind fun s => ?_
    refine (Grows.after report (.log _)).bind fun _ => ?_
    refine (Grows.after report (Grows.tryCatch (.execute s) fun e => ?_)).bind fun affected => ?_
    · exact (Grows.log _).bind fun _ => .still (.error e)
    · exact .still (.ok (report.add affected))

theorem conclude_grows (table : Ident) (report : Report) (fault : Option CsvFault) :
    Grows (ρ := ρ) (conclude table report fault) := by
  intro db
  obtain ⟨acts,grown,_⟩ := conclude_run table report fault db
  exact ⟨acts,0,grown⟩

-- A header that makes columns, and few enough of them.
structure Headed (options : Options) (header : List String) : Prop where
  written : ∃ cell ∈ header, Text.isAllBlank cell = false
  named : ∀ cell ∈ header, IsName (headerName cell)
  distinct : (header.map headerName).Nodup
  within : options.chunkSize * header.length ≤ maxParameters

theorem checkBindLimit_ok {size columns : Nat} :
    checkBindLimit size columns = .ok () ↔ size * columns ≤ maxParameters := by
  constructor
  · exact within_of_checked
  · intro within
    have bound : boundByChunk size columns ≤ size * columns := Nat.min_le_left _ _
    rw [checkBindLimit,if_neg]
    omega

theorem checkBindLimit_error {columns : Nat} (beyond : ¬size * columns ≤ maxParameters) :
    ∃ fault, checkBindLimit size columns = .error (.validation fault) := by
  unfold checkBindLimit
  split
  · exact ⟨_,rfl⟩
  · rename_i fits
    exact absurd (checkBindLimit_ok.mp (if_neg fits)) beyond

-- What is handed over has a sound header, and its columns are named by it.
theorem feed_header {options : Options} {document : Csv.Document} {handed : Feed}
    (read : feed options document = .ok handed) : ∃ header, document.header = .ok header ∧
      Headed options header ∧ handed.schema.columnNames = header.map headerName := by
  obtain ⟨names,header,own,blank,made,checked,_,rfl⟩ := feed_ok read
  obtain ⟨_,named,distinct,_⟩ := TableSchema.ofHeaders_ok.mp made
  have counted := (TableSchema.ofHeaders_columns made).1
  refine ⟨names,own,⟨by simpa using blank,named,distinct,?_⟩,?_⟩
  · rw [← counted]
    exact within_of_checked checked
  · exact (header.observeAll_names _).trans (TableSchema.ofHeaders_names made)

theorem feed_headed {options : Options} {document : Csv.Document} {header : List String}
    (read : document.header = .ok header) (headed : Headed options header)
    (sound : ¬(document.fault.isSome ∧ document.records.length < options.sampleSize)) :
    ∃ handed, feed options document = .ok handed := by
  obtain ⟨cell,member,written⟩ := headed.written
  have some : header ≠ [] := List.ne_nil_of_mem member
  have blank : header.all Text.isAllBlank = false := by simpa using ⟨cell,member,written⟩
  have schema := TableSchema.ofHeaders_ok.mpr ⟨some,headed.named,headed.distinct,rfl⟩
  have limit := checkBindLimit_ok.mpr headed.within
  have taken : document.header.mapError Error.csv = .ok header := by
    rw [read]
    rfl
  unfold feed
  simp only [taken,blank,schema,Bind.bind,Except.bind,Bool.false_eq_true,if_false,List.length_map,
    limit]
  cases faulty : document.fault with
  | none => exact ⟨_,rfl⟩
  | some fault =>
    have long : ¬(document.records.take options.sampleSize).length < options.sampleSize := by
      have reached : options.sampleSize ≤ document.records.length := by simpa [faulty] using sound
      rw [List.length_take]
      omega
    exact ⟨_,if_neg long⟩

theorem TableSchema.columnType?_some {schema : TableSchema} {name : String} :
    (schema.columnType? name).isSome ↔ name ∈ schema.columnNames := by
  unfold columnType? columnNames
  induction schema.columns with
  | nil => simp
  | cons column columns ih =>
    obtain ⟨own,type⟩ := column
    by_cases same : name = own
    · simp [same]
    · simp [List.lookup_cons,same,beq_eq_false_iff_ne.mpr same,ih]

-- The key column can be made if its name is a name and no column's.
theorem TableSchema.identityColumn_ok {schema : TableSchema} {table : Ident} :
    (∃ key, schema.identityColumn table = .ok key) ↔
      IsName (keyName table) ∧ keyName table ∉ schema.columnNames := by
  rw [← columnType?_some]
  unfold identityColumn IsName
  cases nameFault? (keyName table) with
  | some fault => simp
  | none =>
    by_cases taken : (schema.columnType? (keyName table)).isSome = true
    · simp [taken]
    · simp [taken]

-- Why a load is refused up front.
inductive Refused (options : Options) (name : String) (source : Csv.Source) : Prop where
  | chunkSize (zero : options.chunkSize = 0)
  | sampleSize (zero : options.sampleSize = 0)
  | tableName (unnamed : ∀ table : Ident, table.sql ≠ name)
  | unread (failed : source.document.header = .error fault)
  | blank (read : source.document.header = .ok header)
      (blank : ∀ cell ∈ header, Text.isAllBlank cell = true)
  | header (read : source.document.header = .ok header) (member : cell ∈ header)
      (unnamed : ¬IsName (headerName cell))
  | repeated (read : source.document.header = .ok header) (twice : ¬(header.map headerName).Nodup)
  | tooLarge (read : source.document.header = .ok header)
      (beyond : maxParameters < options.chunkSize * header.length)
  | record (broken : source.BrokenWithin options.sampleSize)
  | keyName (some : source.document.records ≠ []) (keyed : options.autoIncrement = true)
      (named : table.sql = name) (unnamed : ¬IsName (TableSchema.keyName table))
  | keyTaken (some : source.document.records ≠ []) (keyed : options.autoIncrement = true)
      (named : table.sql = name) (read : source.document.header = .ok header)
      (taken : TableSchema.keyName table ∈ header.map headerName)

-- What is known of a load that goes as far as the table.
structure Accepted (options : Options) (name : String) (source : Csv.Source) (table : Ident)
    (handed : Feed) : Prop where
  valid : options.validate = .ok ()
  named : Ident.parse name = .ok table
  fed : feed options source.document = .ok handed
  keyed : handed.sampled ≠ 0 → options.autoIncrement = true →
    ∃ key, handed.schema.identityColumn table = .ok key

-- With sound options and a table that has a name, all depends on what is handed over.
theorem load_fed {options : Options} {name : String} {table : Ident}
    (valid : options.validate = .ok ()) (named : Ident.parse name = .ok table) (source : Csv.Source)
    (db : Db ρ) : load options name source db =
      (Report.empty.after (feed options source.document) >>= insertFeed options table) db := by
  unfold load
  exact (tried_run valid _ _ db).trans (tried_run named _ _ db)

theorem Accepted.load_run {options : Options} {name : String} {source : Csv.Source} {table : Ident}
    {handed : Feed} (accepted : Accepted options name source table handed) (db : Db ρ) :
    load options name source db = insertFeed options table handed db :=
  (load_fed accepted.valid accepted.named source db).trans (tried_run accepted.fed _ _ db)

theorem tried_fails {tried : Except Error α} {e : Error} (failed : tried = .error e)
    (next : α → LoadTask ρ β) (db : Db ρ) :
    (Report.empty.after (liftM tried : Task ρ α) >>= next) db = (.error (.atStart e),db) := by
  rw [bind_run,after_run,failed]
  rfl

-- A load goes as far as the table, or ends with an error and has done nothing.
theorem load_cases (options : Options) (name : String) (source : Csv.Source) :
    (∃ table handed, Accepted options name source table handed) ∨
      ∃ e, ∀ {ρ : Type} (db : Db ρ), load options name source db = (.error (.atStart e),db) := by
  cases valid : options.validate with
  | error e => exact .inr ⟨e,fun db => tried_fails valid _ db⟩
  | ok u =>
    cases named : Ident.parse name with
    | error e =>
      refine .inr ⟨e,fun db => ?_⟩
      exact (tried_run valid _ _ db).trans (tried_fails named _ db)
    | ok table =>
      cases fed : feed options source.document with
      | error e =>
        exact .inr ⟨e,fun db => (load_fed valid named source db).trans (tried_fails fed _ db)⟩
      | ok handed =>
        by_cases keyless : handed.sampled ≠ 0 ∧ options.autoIncrement = true
        · cases key : handed.schema.identityColumn table with
          | ok column => exact .inl ⟨table,handed,valid,named,fed,fun _ _ => ⟨column,key⟩⟩
          | error e =>
            refine .inr ⟨e,fun db => ?_⟩
            refine (load_fed valid named source db).trans ((tried_run fed _ _ db).trans ?_)
            rw [insertFeed,if_neg keyless.1,bind_run,openTable,if_pos keyless.2,tried_fails key]
        · exact .inl ⟨table,handed,valid,named,fed,fun some keyed => absurd ⟨some,keyed⟩ keyless⟩

theorem Accepted.sampled {options : Options} {name : String} {source : Csv.Source} {table : Ident}
    {handed : Feed} (accepted : Accepted options name source table handed) :
    handed.sampled = 0 ↔ source.document.records = [] := by
  have counted := (feed_handed accepted.fed).sampled
  have sampling := (Options.validate_ok accepted.valid).2
  rw [counted,← List.length_eq_zero_iff]
  omega

theorem Accepted.not_refused {options : Options} {name : String} {source : Csv.Source} {table : Ident}
    {handed : Feed} (accepted : Accepted options name source table handed) :
    ¬Refused options name source := by
  obtain ⟨chunks,samples⟩ := Options.validate_ok accepted.valid
  obtain ⟨header,read,headed,names⟩ := feed_header accepted.fed
  have spelled := Ident.sql_parse accepted.named
  have keyed : source.document.records ≠ [] → options.autoIncrement = true →
      IsName (TableSchema.keyName table) ∧ TableSchema.keyName table ∉ header.map headerName := by
    intro some on
    have sampled : handed.sampled ≠ 0 := fun none => some (accepted.sampled.mp none)
    rw [← names]
    exact TableSchema.identityColumn_ok.mp (accepted.keyed sampled on)
  intro refused
  cases refused with
  | chunkSize zero => omega
  | sampleSize zero => omega
  | tableName unnamed => exact unnamed table spelled
  | unread failed => cases failed.symm.trans read
  | blank own blank =>
    cases own.symm.trans read
    obtain ⟨cell,member,written⟩ := headed.written
    rw [blank cell member] at written
    cases written
  | header own member unnamed =>
    cases own.symm.trans read
    exact unnamed (headed.named _ member)
  | repeated own twice =>
    cases own.symm.trans read
    exact twice headed.distinct
  | tooLarge own beyond =>
    cases own.symm.trans read
    exact absurd headed.within (Nat.not_le.mpr beyond)
  | record broken =>
    obtain ⟨faulty,short⟩ := (Csv.Source.document_broken read _).mpr broken
    have past := (feed_handed accepted.fed).past faulty
    omega
  | keyName some on named unnamed =>
    cases Ident.sql_injective (named.trans spelled.symm)
    exact unnamed (keyed some on).1
  | keyTaken some on named own taken =>
    cases own.symm.trans read
    cases Ident.sql_injective (named.trans spelled.symm)
    exact (keyed some on).2 taken

theorem accepted_of_not_refused {options : Options} {name : String} {source : Csv.Source}
    (willing : ¬Refused options name source) :
    ∃ table handed, Accepted options name source table handed := by
  have valid : options.validate = .ok () := by
    have chunks : options.chunkSize ≠ 0 := fun zero => willing (.chunkSize zero)
    have samples : options.sampleSize ≠ 0 := fun zero => willing (.sampleSize zero)
    simp [Options.validate,chunks,samples]
  obtain ⟨table,named⟩ : ∃ table, Ident.parse name = .ok table := by
    cases read : Ident.parse name with
    | ok table => exact ⟨table,rfl⟩
    | error e =>
      refine absurd (.tableName fun table spelled => ?_) willing
      cases read.symm.trans (Ident.parse_ok.mpr spelled)
  have spelled := Ident.sql_parse named
  obtain ⟨header,read⟩ : ∃ header, source.document.header = .ok header := by
    cases read : source.document.header with
    | ok header => exact ⟨header,rfl⟩
    | error fault => exact absurd (.unread read) willing
  have headed : Headed options header := by
    constructor
    · apply Decidable.byContradiction
      intro none
      refine willing (.blank read fun cell member => ?_)
      simpa using fun written => none ⟨cell,member,written⟩
    · intro cell member
      exact Decidable.byContradiction fun unnamed => willing (.header read member unnamed)
    · exact Decidable.byContradiction fun twice => willing (.repeated read twice)
    · exact Nat.le_of_not_lt fun beyond => willing (.tooLarge read beyond)
  have sound : ¬(source.document.fault.isSome ∧ source.document.records.length < options.sampleSize) :=
    fun broken => willing (.record ((Csv.Source.document_broken read _).mp broken))
  obtain ⟨handed,fed⟩ := feed_headed read headed sound
  refine ⟨table,handed,valid,named,fed,fun sampled on => TableSchema.identityColumn_ok.mpr ?_⟩
  have some : source.document.records ≠ [] := by
    intro none
    have counted := (feed_handed fed).sampled
    rw [none,List.length_nil,Nat.min_zero] at counted
    exact sampled counted
  obtain ⟨own,same,_,names⟩ := feed_header fed
  cases read.symm.trans same
  rw [names]
  constructor
  · exact Decidable.byContradiction fun unnamed => willing (.keyName some on spelled unnamed)
  · exact fun taken => willing (.keyTaken some on spelled read taken)

theorem Accepted.borrows {options : Options} {name : String} {source : Csv.Source} {table : Ident}
    {handed : Feed} (accepted : Accepted options name source table handed)
    (some : source.document.records ≠ []) : Borrows (ρ := ρ) (load options name source) := by
  have sampled : handed.sampled ≠ 0 := fun none => some (accepted.sampled.mp none)
  have opens : Borrows (ρ := ρ) (openTable options table handed.schema) := by
    apply Borrows.of_performs
    intro replies
    obtain ⟨asked,result,opening,performs⟩ := openTable_opening (accepted.keyed sampled) replies
    exact ⟨asked,_,opening.some,performs⟩
  intro db lent
  rw [accepted.load_run,insertFeed,if_neg sampled]
  exact opens.bind (fun schema => (insertChunks_grows _ _ _ _ _).bind fun report =>
    conclude_grows table report handed.fault) db lent

-- A load that is refused up front ends with an error, without a row inserted and without anything
-- done to the database. A source with a header and nothing else loads as nothing. Any other load
-- borrows a connection where there is one.
theorem refused_untouched (options : Options) (name : String) (source : Csv.Source) (db : Db ρ) :
    (Refused options name source →
      ∃ e, load options name source db = (.error ⟨0,e⟩,db)) ∧
    (¬Refused options name source → source.document.records = [] →
      (load options name source db).1 = .ok ⟨0,0⟩ ∧
        (load options name source db).2.backend.acquired = db.backend.acquired) ∧
    (¬Refused options name source → source.document.records ≠ [] →
      db.backend.availability.refusal? = none →
        db.backend.acquired < (load options name source db).2.backend.acquired) := by
  refine ⟨fun refused => ?_,fun willing none => ?_,fun willing some lent => ?_⟩
  · rcases load_cases options name source with ⟨table,handed,accepted⟩ | ⟨e,failed⟩
    · exact absurd refused accepted.not_refused
    · exact ⟨e,failed db⟩
  · obtain ⟨table,handed,accepted⟩ := accepted_of_not_refused willing
    rw [accepted.load_run,insertFeed,if_pos (accepted.sampled.mpr none)]
    refine ⟨rfl,?_⟩
    exact (log_grown db.backend (.emptySource table.sql)).acquired
  · obtain ⟨table,handed,accepted⟩ := accepted_of_not_refused willing
    exact accepted.borrows some db lent

namespace Keyed

-- Tables that are to be dropped and made, or not, with a key of their own, or without.
def options (drops creates keyed : Bool) : Options := ⟨1000,100,drops,creates,keyed,false,false⟩

-- One column with the name of the key and one record; one column of another name, without a record
-- and with one.
def clashing : Csv.Source := ⟨[116,95,105,100,10,49,10],.complete⟩

def headed : Csv.Source := ⟨[97,10],.complete⟩

def filled : Csv.Source := ⟨[97,10,49,10],.complete⟩

def feed : Feed := ⟨⟨[("a",.integer)]⟩,1,[[⟨["1"],2⟩]],none⟩

def start : Db Nat := .ofBackend (.start .ready [.affected 0,.affected 0,.affected 1])

theorem filled_document : filled.document = ⟨.ok ["a"],[⟨["1"],2⟩],none⟩ := by rfl

theorem filled_accepted (drops creates keyed : Bool) :
    Accepted (options drops creates keyed) "t" filled Sample.table feed := by
  have whole : chunks 1000 [(⟨["1"],2⟩ : Csv.Record)] = [[⟨["1"],2⟩]] := by simp [chunks]
  refine ⟨rfl,rfl,?_,fun _ _ => ⟨"t_id",rfl⟩⟩
  rw [filled_document]
  unfold Load.feed options
  dsimp only
  exact congrArg (fun chunks => Except.ok (Feed.mk ⟨[("a",.integer)]⟩ 1 chunks none)) whole

end Keyed

theorem refused_untouched_keyed :
    (∃ e, load (Keyed.options true true true) "t" Keyed.clashing Keyed.start =
      (.error ⟨0,e⟩,Keyed.start)) ∧
    (load (Keyed.options true true true) "t" Keyed.headed Keyed.start).1 = .ok ⟨0,0⟩ ∧
    Keyed.start.backend.acquired <
      (load (Keyed.options true true true) "t" Keyed.filled Keyed.start).2.backend.acquired := by
  have clashing : Keyed.clashing.document = ⟨.ok ["t_id"],[⟨["1"],2⟩],none⟩ := by rfl
  have refused : Refused (Keyed.options true true true) "t" Keyed.clashing :=
    .keyTaken (by simp [clashing]) rfl (show Sample.table.sql = "t" by rfl)
      (congrArg Csv.Document.header clashing) (by decide)
  have headed : Keyed.headed.document = ⟨.ok ["a"],[],none⟩ := by rfl
  have empty : Accepted (Keyed.options true true true) "t" Keyed.headed Sample.table
      ⟨⟨[("a",.unknown)]⟩,0,[],none⟩ := by
    refine ⟨rfl,rfl,?_,fun some => absurd rfl some⟩
    have none : chunks 1000 ([] : List Csv.Record) = [] := by simp [chunks]
    rw [headed]
    exact congrArg (fun none => Except.ok (Feed.mk ⟨[("a",.unknown)]⟩ 0 none Option.none)) none
  have willing := (Keyed.filled_accepted true true true).not_refused
  refine ⟨(refused_untouched _ _ _ _).1 refused,?_,?_⟩
  · exact ((refused_untouched _ _ _ _).2.1 empty.not_refused (by rw [headed])).1
  · exact (refused_untouched _ _ _ _).2.2 willing (by simp [Keyed.filled_document]) rfl

end Load

end DataAccess
