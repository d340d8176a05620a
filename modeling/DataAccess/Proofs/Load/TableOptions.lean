import DataAccess.Proofs.Load.Refusals

-- What the options of a load do to its table: when it is dropped, when it is made, and whose types
-- the columns have that are filled.
namespace DataAccess
open Backend

abbrev Sent := Wanted × String × List Value

-- What a task sends to the database that it runs on.
def sentBy (task : ExceptT ε (StateM (Db ρ)) α) (db : Db ρ) : List Sent :=
  (task db).2.backend.sent.drop db.backend.sent.length

theorem sentBy_grown {task : ExceptT ε (StateM (Db ρ)) α} {db : Db ρ}
    (grown : db.backend.Grown acts taken (task db).2.backend) :
    sentBy task db = acts.filterMap Act.sent? := by
  rw [sentBy,grown.sent,List.drop_left]

namespace Load

def asking (asked : Wanted × Statement) : Sent := (asked.1,asked.2.sql,asked.2.params.toList)

-- What a statement does, by the words that it begins with.
inductive Effect where
  | drop
  | create
  | insert
  | look
  deriving DecidableEq, Repr

namespace Effect

def ofText (sql : List Char) : Effect :=
  if "DROP TABLE ".toList.isPrefixOf sql then drop
  else if "CREATE TABLE ".toList.isPrefixOf sql then create
  else if "INSERT INTO ".toList.isPrefixOf sql then insert
  else look

def of (sent : Sent) : Effect := ofText sent.2.1.toList

theorem of_parts {s : Statement} (wanted : Wanted) (laid : s = .ofParts (.text lead :: parts)) :
    ∃ rest, of (asking (wanted,s)) = ofText (lead.toList ++ rest) := by
  refine ⟨Part.write 0 parts,?_⟩
  rw [of,asking,laid,Statement.ofParts,Statement.add_sql]
  rfl

@[simp] theorem of_dropTable (table : Ident) (wanted : Wanted) :
    of (asking (wanted,dropTable table)) = drop := by
  have laid : dropTable table = .ofParts [.text "DROP TABLE IF EXISTS ",.text table.sql] := by
    rw [dropTable,Statement.pushIdent_add,Statement.ofText_parts,Statement.ofParts_add]
    rfl
  obtain ⟨rest,same⟩ := of_parts wanted laid
  rw [same]
  simp [ofText]

@[simp] theorem of_createTable (schema : TableSchema) (table : Ident) (withKey : Bool)
    (wanted : Wanted) : of (asking (wanted,schema.createTable table withKey)) = create := by
  obtain ⟨rest,same⟩ := of_parts wanted (schema.createTable_parts table withKey)
  rw [same]
  simp [ofText]

theorem of_inserts {schema : TableSchema} {table : Ident} {records : List Csv.Record} {s : Statement}
    (inserts : Inserts schema table records s) (wanted : Wanted) : of (asking (wanted,s)) = insert := by
  obtain ⟨columns,rows,_,_,laid,_⟩ := inserts
  obtain ⟨rest,same⟩ := of_parts wanted laid
  rw [same]
  simp [ofText]

theorem probe_parts (lead close : String) (table : Ident) : ∃ parts,
    (((pushSchema (Statement.ofText lead) table).push " AND table_name = ").bind
      (.text table.name)).push close = .ofParts (.text lead :: parts) := by
  refine ⟨schemaParts table ++ [.text " AND table_name = ",.value (.text table.name),.text close],?_⟩
  rw [Statement.push_add,Statement.bind_add,Statement.push_add,pushSchema_add,Statement.ofText_parts,
    Statement.add_add,Statement.add_add,Statement.add_add,Statement.ofParts_add]
  rfl

@[simp] theorem of_tableExists (table : Ident) (wanted : Wanted) :
    of (asking (wanted,tableExists table)) = look := by
  obtain ⟨parts,laid⟩ := probe_parts _ _ table
  obtain ⟨rest,same⟩ := of_parts wanted (s := tableExists table) laid
  rw [same]
  simp [ofText]

@[simp] theorem of_tableColumns (table : Ident) (wanted : Wanted) :
    of (asking (wanted,tableColumns table)) = look := by
  obtain ⟨parts,laid⟩ := probe_parts _ _ table
  obtain ⟨rest,same⟩ := of_parts wanted (s := tableColumns table) laid
  rw [same]
  simp [ofText]

end Effect

-- What a table declares a column to be, if cells can be converted to it. The last word counts.
def declaredType? (name : String) : List (String × String) → Option ColumnType
  | [] => none
  | (other,dataType) :: declared =>
    (declaredType? name declared).or
      (if name = other then ColumnType.ofDataType? dataType else none)

-- Columns with the types that the table declares for them, and with their own where it declares none.
structure TypedBy (declared : List (String × String)) (schema filled : TableSchema) : Prop where
  names : filled.columnNames = schema.columnNames
  types : ∀ name, filled.columnType? name =
    (schema.columnType? name).map fun own => (declaredType? name declared).getD own

theorem setType_lookup (name other : String) (type : ColumnType) (columns : List (String × ColumnType)) :
    (TableSchema.setType other type columns).lookup name =
      (columns.lookup name).map fun own => if name = other then type else own := by
  induction columns with
  | nil => rfl
  | cons column columns ih =>
    obtain ⟨own,old⟩ := column
    unfold TableSchema.setType
    by_cases found : own = other
    · subst found
      by_cases same : name = own
      · simp [same]
      · simp [List.lookup_cons,same,beq_eq_false_iff_ne.mpr same]
    · by_cases same : name = own
      · subst same
        simp [found]
      · simp [List.lookup_cons,found,beq_eq_false_iff_ne.mpr same,ih]

theorem TableSchema.adopt_typed (schema : TableSchema) (declared : List (String × String)) :
    TypedBy declared schema (schema.adopt declared) := by
  refine ⟨schema.adopt_names declared,fun name => ?_⟩
  unfold adopt
  induction declared generalizing schema with
  | nil => simp [declaredType?]
  | cons entry declared ih =>
    obtain ⟨other,dataType⟩ := entry
    rw [List.foldl_cons,ih]
    cases known : ColumnType.ofDataType? dataType with
    | none => simp [declaredType?,known]
    | some type =>
      simp only [columnType?,setType_lookup,Option.map_map,declaredType?,known]
      refine Option.map_congr fun own _ => ?_
      cases declaredType? name declared with
      | some later => rfl
      | none => by_cases same : name = other <;> simp [same]

-- A table is absent when it was dropped, or when it is told to be.
inductive Absent (options : Options) (replies : List Reply) : Prop where
  | dropped (drops : options.dropIfExists = true) (done : answer replies 0 = .ok n)
  | told (keeps : options.dropIfExists = false) (absent : told replies = .ok false)

-- A load that does to its table what its options say.
structure Obeys (options : Options) (table : Ident) (schema : TableSchema) (records : List Csv.Record)
    (replies : List Reply) (sent : List Sent) (result : Except Stopped Report) : Prop where
  drops : .drop ∈ sent.map Effect.of ↔ options.dropIfExists = true
  dropped : options.dropIfExists = true → sent.head? = some (asking (.count,dropTable table))
  creates : .create ∈ sent.map Effect.of ↔
    options.createIfNotExists = true ∧ Absent options replies
  created : ∀ s ∈ sent, Effect.of s = .create →
    s = asking (.count,schema.createTable table options.autoIncrement)
  before : ∀ i j : Nat, (sent.map Effect.of)[i]? = some .create →
    (sent.map Effect.of)[j]? = some .insert → i < j
  once : (sent.map Effect.of).count .drop ≤ 1 ∧ (sent.map Effect.of).count .create ≤ 1
  missing : options.createIfNotExists = false → Absent options replies →
    (∃ message code, result = .error ⟨0,.query message code⟩) ∧ .insert ∉ sent.map Effect.of
  present : options.dropIfExists = false → Load.told replies = .ok true →
    .drop ∉ sent.map Effect.of ∧ .create ∉ sent.map Effect.of ∧
      ∀ s ∈ sent, Effect.of s = .insert → ∃ declared filled i t, described replies = .ok declared ∧
        TypedBy declared schema filled ∧
          Inserts filled table (slice options.chunkSize records i) t ∧ s = asking (.count,t)

-- Where a dropped table may be made again, or is not dropped after all.
def Permits (options : Options) (replies : List Reply) : Prop :=
  options.dropIfExists = true → options.createIfNotExists = true ∨ ∃ e, answer replies 0 = .error e

namespace Absent

variable {options : Options} {replies : List Reply}

theorem of_drops (drops : options.dropIfExists = true) :
    Absent options replies ↔ ∃ n, answer replies 0 = .ok n := by
  constructor
  · intro absent
    cases absent with
    | dropped _ done => exact ⟨_,done⟩
    | told keeps => simp [drops] at keeps
  · intro ⟨n,done⟩
    exact .dropped drops done

theorem of_keeps (keeps : options.dropIfExists = false) :
    Absent options replies ↔ Load.told replies = .ok false := by
  constructor
  · intro absent
    cases absent with
    | dropped drops => simp [keeps] at drops
    | told _ absent => exact absent
  · exact .told keeps

end Absent

namespace Opening

variable {options : Options} {table : Ident} {schema : TableSchema} {replies : List Reply}
  {asked : List (Wanted × Statement)} {result : Except Error TableSchema}

theorem drop_mem_iff (opening : Opening options table schema replies asked result) :
    .drop ∈ asked.map (Effect.of ∘ asking) ↔ options.dropIfExists = true := by
  cases opening with
  | undropped drops | remade drops => simp [drops]
  | untold keeps | taken keeps | missed keeps | made keeps => simp [keeps]

theorem head?_of_drops (opening : Opening options table schema replies asked result)
    (drops : options.dropIfExists = true) : asked.head? = Option.some (.count,dropTable table) := by
  cases opening with
  | undropped | remade => rfl
  | untold keeps | taken keeps | missed keeps | made keeps => simp [drops] at keeps

theorem create_mem_iff (opening : Opening options table schema replies asked result)
    (permits : Permits options replies) : .create ∈ asked.map (Effect.of ∘ asking) ↔
      options.createIfNotExists = true ∧ Absent options replies := by
  cases opening with
  | undropped drops refusal => simp [Absent.of_drops drops,refusal]
  | remade drops done =>
    have free := (permits drops).resolve_right (by simp [done])
    simp [Absent.of_drops drops,done,free]
  | untold keeps failed => simp [Absent.of_keeps keeps,failed]
  | taken keeps present => simp [Absent.of_keeps keeps,present]
  | missed keeps absent bound => simp [bound]
  | made keeps absent free => simp [Absent.of_keeps keeps,absent,free]

theorem create_mem_of_dropped (opening : Opening options table schema replies asked result)
    (drops : options.dropIfExists = true) (done : answer replies 0 = .ok n) :
    .create ∈ asked.map (Effect.of ∘ asking) := by
  cases opening with
  | undropped _ refusal => simp [done] at refusal
  | remade => simp
  | untold keeps | taken keeps | missed keeps | made keeps => simp [drops] at keeps

theorem eq_of_create (opening : Opening options table schema replies asked result) :
    ∀ a ∈ asked, Effect.of (asking a) = .create →
      a = (.count,schema.createTable table options.autoIncrement) := by
  cases opening <;> simp

theorem inserts_nothing (opening : Opening options table schema replies asked result) :
    .insert ∉ asked.map (Effect.of ∘ asking) := by
  cases opening <;> simp

theorem count_drop_create_le (opening : Opening options table schema replies asked result) :
    (asked.map (Effect.of ∘ asking)).count .drop ≤ 1 ∧
      (asked.map (Effect.of ∘ asking)).count .create ≤ 1 := by
  cases opening <;> simp

theorem result_of_missing (opening : Opening options table schema replies asked result)
    (permits : Permits options replies) (bound : options.createIfNotExists = false)
    (absent : Absent options replies) : result = .error (Load.missing table) := by
  cases opening with
  | undropped drops refusal => simp [Absent.of_drops drops,refusal] at absent
  | remade drops done => simpa [bound,done] using permits drops
  | untold keeps failed => simp [Absent.of_keeps keeps,failed] at absent
  | taken keeps present => simp [Absent.of_keeps keeps,present] at absent
  | missed => rfl
  | made _ _ free => simp [bound] at free

theorem result_of_present (opening : Opening options table schema replies asked result)
    (keeps : options.dropIfExists = false) (present : told replies = .ok true) :
    .create ∉ asked.map (Effect.of ∘ asking) ∧ result = (described replies).map schema.adopt := by
  cases opening with
  | undropped drops | remade drops => simp [keeps] at drops
  | untold _ failed => simp [present] at failed
  | taken => simp
  | missed _ absent | made _ absent => simp [present] at absent

end Opening

-- What a load sends that gets as far as the table: what is asked to make it ready, and what is
-- inserted into the columns as they are then to be filled.
structure Sending (options : Options) (table : Ident) (schema : TableSchema) (records : List Csv.Record)
    (replies : List Reply) (asked : List (Wanted × Statement)) (opened : Except Error TableSchema)
    (ss : List Statement) (sent : List Sent) (result : Except Stopped Report) : Prop where
  opening : Opening options table schema replies asked opened
  order : sent = asked.map asking ++ ss.map fun s => asking (.count,s)
  inserts : ∀ (i : Nat) s, ss[i]? = some s → ∃ filled, opened = .ok filled ∧
    Inserts filled table (slice options.chunkSize records i) s
  stopped : ∀ e, opened = .error e → result = .error ⟨0,e⟩

-- How a load goes on once its table is ready, or is not.
inductive Filling (options : Options) (table : Ident) (document : Csv.Document) (replies : List Reply) :
    Except Error TableSchema → List Statement → Except Stopped Report → Prop
  | unopened : Filling options table document replies (.error e) [] (.error ⟨0,e⟩)
  | filled {inner : Except Stopped Report} (course : Course schema table Report.empty
        (recordChunks options.chunkSize document.records document.fault.isSome) replies ss inner) :
      Filling options table document replies (.ok schema) ss (concluded document.fault inner)

theorem Filling.sends_in_order {options : Options} (positive : 0 < options.chunkSize) {document : Csv.Document}
    {replies left : List Reply} {sent : List Sent}
    (filling : Filling options table document left opened ss result)
    (opening : Opening options table schema replies asked opened)
    (order : sent = asked.map asking ++ ss.map fun s => asking (.count,s)) :
    Sending options table schema document.records replies asked opened ss sent result := by
  refine ⟨opening,order,?_,?_⟩
  · intro i s at_i
    cases filling with
    | unopened => cases at_i
    | filled course => exact ⟨_,rfl,course.slices positive i s at_i⟩
  · rintro e rfl
    cases filling
    rfl

namespace Accepted

variable {options : Options} {name : String} {source : Csv.Source} {table : Ident} {handed : Feed}

theorem records_length (accepted : Accepted options name source table handed) :
    ∀ r ∈ source.document.records, r.fields.length = handed.schema.columns.length := by
  obtain ⟨header,read,counted⟩ := (feed_handed accepted.fed).width
  rw [counted]
  exact Csv.Source.document_width read

-- The replies behind those that make the table ready are for what fills it.
theorem exists_filling (accepted : Accepted options name source table handed) (some : handed.sampled ≠ 0)
    {db : Db ρ} (lent : db.backend.availability.refusal? = none) : ∃ asked opened ss,
      Opening options table handed.schema db.backend.replies asked opened ∧
      sentBy (load options name source) db = asked.map asking ++ ss.map (fun s => asking (.count,s)) ∧
      Filling options table source.document (db.backend.replies.drop asked.length) opened ss
        (load options name source db).1 := by
  obtain ⟨asked,opened,opening,performs⟩ :=
    openTable_opening (ρ := ρ) (accepted.keyed some) db.backend.replies
  obtain ⟨acts,next,grown,asks,ran⟩ := performs db lent rfl
  have whole : load options name source db =
      (openTable options table handed.schema >>= fun schema =>
        insertAll options table schema handed) db := by
    rw [accepted.load_run,insertFeed,if_neg some]
    rfl
  rw [bind_run,ran] at whole
  cases opened with
  | error e =>
    change load options name source db = (.error ⟨0,e⟩,next) at whole
    have stopped : db.backend.Grown acts asked.length (load options name source db).2.backend := by
      rwa [whole]
    rw [sentBy_grown stopped,asks.order,whole]
    exact ⟨asked,_,[],opening,(List.append_nil _).symm,.unopened⟩
  | ok filled =>
    have positive := (Options.validate_ok accepted.valid).1
    have names := openTable_names options table handed.schema db filled (by rw [ran]; rfl)
    have ready : next.backend.availability.refusal? = none := by rw [grown.availability,lent]
    obtain ⟨more,ss,taken,inner,later,sends,course,concludes⟩ := insertAll_course positive
      (feed_handed accepted.fed) accepted.records_length names table ready
    have all := grown.trans later
    change load options name source db = insertAll options table filled handed next at whole
    rw [← whole] at all concludes
    rw [grown.replies] at course
    rw [sentBy_grown all,List.filterMap_append,asks.order,sends.order,concludes]
    exact ⟨asked,_,ss,opening,rfl,.filled course⟩

theorem exists_sending (accepted : Accepted options name source table handed) (some : handed.sampled ≠ 0)
    {db : Db ρ} (lent : db.backend.availability.refusal? = none) : ∃ asked opened ss,
      Sending options table handed.schema source.document.records db.backend.replies asked opened ss
        (sentBy (load options name source) db) (load options name source db).1 := by
  obtain ⟨asked,opened,ss,opening,order,filling⟩ := accepted.exists_filling some lent
  exact ⟨asked,opened,ss,filling.sends_in_order (Options.validate_ok accepted.valid).1 opening order⟩

end Accepted

theorem prepareTable_denied {db : Db ρ} (denied : db.backend.availability.refusal? = some e)
    (options : Options) (table : Ident) (schema : TableSchema) :
    ∃ event, prepareTable options table schema db =
      (.error e,{ db with backend := db.backend.log event }) := by
  have run (s : Statement) (wanted : Wanted) : Db.run s wanted db =
      (.error e,{ db with backend := db.backend.log (.connectionDenied (QueryType.ofSql s.sql) e) }) := by
    change ((db.backend.perform s wanted).1,
      { db with backend := (db.backend.perform s wanted).2 }) = _
    rw [perform_denied denied]
  unfold prepareTable
  by_cases drops : options.dropIfExists = true
  · rw [if_pos drops,bind_run,Db.execute,bind_run,run]
    exact ⟨_,rfl⟩
  · rw [if_neg drops,bind_run,askExists,bind_run,Db.queryRows,bind_run,run]
    exact ⟨_,rfl⟩

theorem Accepted.sends_nothing {options : Options} {name : String} {source : Csv.Source} {table : Ident}
    {handed : Feed} {db : Db ρ} (accepted : Accepted options name source table handed)
    (some : handed.sampled ≠ 0) (denied : db.backend.availability.refusal? = Option.some e) :
    sentBy (load options name source) db = [] := by
  obtain ⟨event,ran⟩ := prepareTable_denied denied options table handed.schema
  have whole : load options name source db =
      (.error (Report.empty.stop e),{ db with backend := db.backend.log event }) := by
    rw [accepted.load_run,insertFeed,if_neg some,bind_run,openTable_keyed (accepted.keyed some),
      after_run,ran]
    rfl
  rw [sentBy,whole]
  change (db.backend.log event).sent.drop _ = []
  rw [db.backend.log_sent,List.drop_length]

-- A load reaches the database where it is not refused, has records and is lent a connection.
theorem reaches_iff {options : Options} {name : String} {source : Csv.Source} {db : Db ρ} :
    sentBy (load options name source) db ≠ [] ↔ ¬Refused options name source ∧
      source.document.records ≠ [] ∧ db.backend.availability.refusal? = none := by
  constructor
  · intro reached
    rcases load_cases options name source with ⟨table,handed,accepted⟩ | ⟨e,failed⟩
    · have sampled : handed.sampled ≠ 0 := by
        intro none
        apply reached
        rw [sentBy,accepted.load_run,insertFeed,if_pos none]
        change (db.backend.log _).sent.drop _ = []
        rw [db.backend.log_sent,List.drop_length]
      refine ⟨accepted.not_refused,fun empty => sampled (accepted.sampled.mpr empty),?_⟩
      cases denied : db.backend.availability.refusal? with
      | none => rfl
      | some e => exact absurd (accepted.sends_nothing sampled denied) reached
    · refine absurd ?_ reached
      rw [sentBy,failed,List.drop_length]
  · intro reaching
    obtain ⟨willing,written,lent⟩ := reaching
    obtain ⟨table,handed,accepted⟩ := accepted_of_not_refused willing
    have sampled : handed.sampled ≠ 0 := fun none => written (accepted.sampled.mp none)
    obtain ⟨asked,opened,ss,sending⟩ := accepted.exists_sending sampled lent
    rw [sending.order]
    simp [sending.opening.some]

theorem accepted_of_reached {options : Options} {name : String} {source : Csv.Source} {db : Db ρ}
    (reached : sentBy (load options name source) db ≠ []) : ∃ table handed,
      Accepted options name source table handed ∧ handed.sampled ≠ 0 ∧
        db.backend.availability.refusal? = none := by
  obtain ⟨willing,written,lent⟩ := reaches_iff.mp reached
  obtain ⟨table,handed,accepted⟩ := accepted_of_not_refused willing
  exact ⟨table,handed,accepted,fun none => written (accepted.sampled.mp none),lent⟩

namespace Sending

variable {options : Options} {table : Ident} {schema : TableSchema} {records : List Csv.Record}
  {replies : List Reply} {asked : List (Wanted × Statement)} {opened : Except Error TableSchema}
  {ss : List Statement} {sent : List Sent} {result : Except Stopped Report}

theorem effect_of_insertion (sending : Sending options table schema records replies asked opened ss sent result) :
    ∀ s ∈ ss.map fun s => asking (.count,s), Effect.of s = .insert := by
  intro s member
  obtain ⟨t,inside,rfl⟩ := List.mem_map.mp member
  obtain ⟨i,at_i⟩ := List.getElem?_of_mem inside
  obtain ⟨filled,_,inserts⟩ := sending.inserts i t at_i
  exact Effect.of_inserts inserts .count

-- The table is made ready, and then there are insertions only.
theorem map_effect (sending : Sending options table schema records replies asked opened ss sent result) :
    sent.map Effect.of = asked.map (Effect.of ∘ asking) ++ List.replicate ss.length .insert := by
  rw [sending.order,List.map_append,List.map_map]
  refine congrArg (asked.map (Effect.of ∘ asking) ++ ·) (List.eq_replicate_iff.mpr ⟨by simp,?_⟩)
  intro effect member
  obtain ⟨s,inside,rfl⟩ := List.mem_map.mp member
  exact sending.effect_of_insertion s inside

theorem asked_or_inserted (sending : Sending options table schema records replies asked opened ss sent result)
    (member : s ∈ sent) : (∃ a ∈ asked, s = asking a) ∨ ∃ (i : Nat) (t : Statement) (filled : TableSchema),
      opened = .ok filled ∧ Inserts filled table (slice options.chunkSize records i) t ∧
        s = asking (.count,t) := by
  rw [sending.order] at member
  rcases List.mem_append.mp member with early | late
  · obtain ⟨a,inside,rfl⟩ := List.mem_map.mp early
    exact .inl ⟨a,inside,rfl⟩
  · obtain ⟨t,inside,rfl⟩ := List.mem_map.mp late
    obtain ⟨i,at_i⟩ := List.getElem?_of_mem inside
    obtain ⟨filled,same,inserts⟩ := sending.inserts i t at_i
    exact .inr ⟨i,t,filled,same,inserts,rfl⟩

theorem create_before_insert (sending : Sending options table schema records replies asked opened ss sent result)
    (i j : Nat) (creates : (sent.map Effect.of)[i]? = some .create)
    (inserts : (sent.map Effect.of)[j]? = some .insert) : i < j := by
  rw [sending.map_effect,List.getElem?_append] at creates inserts
  have early : i < (asked.map (Effect.of ∘ asking)).length := by
    apply Decidable.byContradiction
    intro late
    rw [if_neg late,List.getElem?_replicate] at creates
    split at creates <;> cases creates
  have late : ¬j < (asked.map (Effect.of ∘ asking)).length := by
    intro inside
    rw [if_pos inside] at inserts
    exact sending.opening.inserts_nothing (List.mem_of_getElem? inserts)
  omega

theorem create_mem_of_dropped (sending : Sending options table schema records replies asked opened ss sent result)
    (drops : options.dropIfExists = true) (done : answer replies 0 = .ok n) :
    .create ∈ sent.map Effect.of := by
  rw [sending.map_effect]
  exact List.mem_append_left _ (sending.opening.create_mem_of_dropped drops done)

theorem obeys_of_permits (sending : Sending options table schema records replies asked opened ss sent result)
    (permits : Permits options replies) :
    Obeys options table schema records replies sent result := by
  have drops : .drop ∈ sent.map Effect.of ↔ options.dropIfExists = true := by
    rw [sending.map_effect,← sending.opening.drop_mem_iff]
    simp [List.mem_replicate]
  have creates : .create ∈ sent.map Effect.of ↔
      options.createIfNotExists = true ∧ Absent options replies := by
    rw [sending.map_effect,← sending.opening.create_mem_iff permits]
    simp [List.mem_replicate]
  refine ⟨drops,?_,creates,?_,sending.create_before_insert,?_,?_,?_⟩
  · intro on
    rw [sending.order,List.head?_append,List.head?_map,sending.opening.head?_of_drops on]
    rfl
  · intro s member making
    rcases sending.asked_or_inserted member with ⟨a,inside,rfl⟩ | ⟨i,t,filled,_,inserts,rfl⟩
    · rw [sending.opening.eq_of_create a inside making]
    · rw [Effect.of_inserts inserts] at making
      cases making
  · rw [sending.map_effect]
    simpa [List.count_replicate] using sending.opening.count_drop_create_le
  · intro bound absent
    have failed := sending.opening.result_of_missing permits bound absent
    refine ⟨⟨_,_,sending.stopped _ failed⟩,?_⟩
    intro inserted
    obtain ⟨s,member,inserts⟩ := List.mem_map.mp inserted
    rcases sending.asked_or_inserted member with ⟨a,inside,rfl⟩ | ⟨i,t,filled,same,_,rfl⟩
    · exact sending.opening.inserts_nothing (List.mem_map.mpr ⟨a,inside,inserts⟩)
    · cases same.symm.trans failed
  · intro keeps present
    obtain ⟨uncreated,adopted⟩ := sending.opening.result_of_present keeps present
    refine ⟨by simp [drops,keeps],?_,?_⟩
    · rw [sending.map_effect]
      simpa [List.mem_replicate] using uncreated
    · intro s member inserts
      rcases sending.asked_or_inserted member with ⟨a,inside,rfl⟩ | ⟨i,t,filled,same,inserted,rfl⟩
      · exact absurd (List.mem_map.mpr ⟨a,inside,inserts⟩) sending.opening.inserts_nothing
      · cases read : described replies with
        | error e =>
          rw [read] at adopted
          cases same.symm.trans adopted
        | ok declared =>
          rw [read] at adopted
          cases same.symm.trans adopted
          exact ⟨declared,_,i,t,rfl,schema.adopt_typed declared,inserted,rfl⟩

end Sending

-- A load that reaches the database does to its table what its options say, but for one thing: a table
-- that it has dropped it makes again, whether it may make one or not.
theorem options_obeyed_iff {options : Options} {name : String} {source : Csv.Source} {db : Db ρ}
    (reached : sentBy (load options name source) db ≠ []) : ∃ table handed,
      Accepted options name source table handed ∧
      (Obeys options table handed.schema source.document.records db.backend.replies
          (sentBy (load options name source) db) (load options name source db).1 ↔
        (options.dropIfExists = true → options.createIfNotExists = true ∨
          ∃ e, answer db.backend.replies 0 = .error e)) := by
  obtain ⟨table,handed,accepted,sampled,lent⟩ := accepted_of_reached reached
  obtain ⟨asked,opened,ss,sending⟩ := accepted.exists_sending sampled lent
  refine ⟨table,handed,accepted,fun obeys drops => ?_,sending.obeys_of_permits⟩
  cases done : answer db.backend.replies 0 with
  | error e => exact .inr ⟨e,rfl⟩
  | ok n => exact .inl (obeys.creates.mp (sending.create_mem_of_dropped drops done)).1

theorem options_obeyed_dropped : ∃ table handed,
    Accepted (Keyed.options true true true) "t" Keyed.filled table handed ∧
    Obeys (Keyed.options true true true) table handed.schema Keyed.filled.document.records
      Keyed.start.backend.replies (sentBy (load (Keyed.options true true true) "t" Keyed.filled) Keyed.start)
      (load (Keyed.options true true true) "t" Keyed.filled Keyed.start).1 := by
  have written : Keyed.filled.document.records ≠ [] := by simp [Keyed.filled_document]
  have reached : sentBy (load (Keyed.options true true true) "t" Keyed.filled) Keyed.start ≠ [] :=
    reaches_iff.mpr ⟨(Keyed.filled_accepted true true true).not_refused,written,rfl⟩
  obtain ⟨table,handed,accepted,exactly⟩ := options_obeyed_iff reached
  exact ⟨table,handed,accepted,exactly.mpr fun _ => .inl rfl⟩

-- A table that may not be made is dropped, made again and filled.
theorem not_always_obeyed :
    Accepted (Keyed.options true false false) "t" Keyed.filled Sample.table Keyed.feed ∧
    (sentBy (load (Keyed.options true false false) "t" Keyed.filled) Keyed.start).map Effect.of =
      [.drop,.create,.insert] ∧
    (load (Keyed.options true false false) "t" Keyed.filled Keyed.start).1 = .ok ⟨1,1⟩ ∧
    ¬Obeys (Keyed.options true false false) Sample.table Keyed.feed.schema
      Keyed.filled.document.records Keyed.start.backend.replies
      (sentBy (load (Keyed.options true false false) "t" Keyed.filled) Keyed.start)
      (load (Keyed.options true false false) "t" Keyed.filled Keyed.start).1 := by
  have accepted := Keyed.filled_accepted true false false
  have effects : (sentBy (load (Keyed.options true false false) "t" Keyed.filled) Keyed.start).map
      Effect.of = [.drop,.create,.insert] := by
    rw [sentBy,accepted.load_run]
    decide +kernel
  refine ⟨accepted,effects,?_,fun obeys => ?_⟩
  · rw [accepted.load_run]
    rfl
  · have made := (obeys.creates.mp (by simp [effects])).1
    cases made

end Load

end DataAccess
