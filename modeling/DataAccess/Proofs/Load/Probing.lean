import DataAccess.Proofs.Load.Catalog

-- Two loads under one name. The second one looks for the table by the name as it was given, and the
-- first one has made it by the name as a server folds it; the second finds it and takes over its
-- types if the two are the same, and takes it for missing if they are not.
namespace DataAccess.Load
open Text (folded)

variable {table : Ident} {replies : List Reply}

-- The statements of a load name one table, and its probes another one, if folding tells them apart.
structure Names (table : Ident) : Prop where
  drop : target? (dropTable table).sql.toList = some (written table)
  create : ∀ schema withKey, target? (TableSchema.createTable schema table withKey).sql.toList =
    some (written table)
  insert : ∀ (q : Query.Insert) s, q.table = .ok table → q.build = .ok s →
    target? s.sql.toList = some (written table)
  probe : ∀ wanted, lookedFor? (asking (wanted,tableExists table)) = some (table.schema?,table.name)
  columns : ∀ wanted, lookedFor? (asking (wanted,tableColumns table)) = some (table.schema?,table.name)

theorem ident_names (table : Ident) : Names table := by
  refine ⟨target?_dropTable table,fun schema withKey => target?_createTable schema table withKey,?_,
    lookedFor?_tableExists table,lookedFor?_tableColumns table⟩
  intro q s own built
  obtain ⟨other,same,_,_,_,_,rfl⟩ := Query.Insert.build_ok.mp built
  rw [own] at same
  cases same
  exact target?_insertParts table q.columns q.rows.toList

-- Folding leaves the last two parts as they are.
theorem plain_iff : (table.schema?,table.name) = written table ↔
    ∀ part ∈ table.parts.drop (table.parts.length - 2), folded part = part := by
  obtain ⟨parts,some,named⟩ := table
  obtain ⟨before,own,rfl⟩ := (List.eq_nil_or_concat' parts).resolve_left some
  unfold written Ident.schema? Ident.name
  dsimp only
  rw [List.dropLast_concat,List.getLast_concat,Prod.mk.injEq,eq_comm (a := own)]
  rcases List.eq_nil_or_concat' before with rfl | ⟨rest,schema,rfl⟩
  · simp
  · have behind : (rest ++ [schema] ++ [own]).drop ((rest ++ [schema] ++ [own]).length - 2) =
        [schema,own] := by simp
    rw [behind,List.getLast?_concat,Option.map_some,Option.some.injEq,eq_comm (a := schema)]
    simp

namespace ColumnType

-- The type that is taken over from a column that was made for this one.
def made : ColumnType → ColumnType
  | unknown => text
  | type => type

theorem ofDataType?_made (type : ColumnType) : ofDataType? (folded type.sqlType) = some type.made := by
  cases type <;> decide

end ColumnType

namespace TableSchema

-- Columns that a server does not rename and that it tells apart, also from a key.
structure Storable (schema : TableSchema) (table : Ident) (withKey : Bool) : Prop where
  nonempty : schema.columns ≠ []
  named : ∀ name ∈ schema.columnNames, IsName name
  lower : ∀ name ∈ schema.columnNames, folded name = name
  distinct : schema.columnNames.Nodup
  apart : withKey = true → folded (keyName table) ∉ schema.columnNames

variable {schema : TableSchema} {withKey : Bool}

theorem Storable.stored (storable : schema.Storable table withKey) :
    Catalog.stored (schema.createTable table withKey).sql.toList =
      (if withKey then [(folded (keyName table),folded "BIGINT")] else []) ++
        schema.columns.map fun column => (column.1,folded column.2.sqlType) := by
  have columns : (schema.columns.map fun column => (column.1,column.2.sqlType)).map
      (fun column => (folded column.1,folded column.2)) =
        schema.columns.map fun column => (column.1,folded column.2.sqlType) := by
    rw [List.map_map]
    refine List.map_congr_left fun column member => ?_
    exact Prod.ext (storable.lower column.1 (List.mem_map_of_mem member)) rfl
  rw [Catalog.stored,columnsMade_createTable storable.nonempty storable.named,List.map_append,columns]
  cases withKey <;> rfl

theorem Storable.stored_distinct (storable : schema.Storable table withKey) :
    ((Catalog.stored (schema.createTable table withKey).sql.toList).map Prod.fst).Nodup := by
  have own : (schema.columns.map fun column => (column.1,folded column.2.sqlType)).map Prod.fst =
      schema.columnNames := by
    rw [List.map_map]
    rfl
  rw [storable.stored,List.map_append,own]
  cases withKey with
  | false => exact storable.distinct
  | true => exact List.nodup_cons.mpr ⟨storable.apart rfl,storable.distinct⟩

-- What is stored of a column says its type.
theorem Storable.declared (storable : schema.Storable table withKey) {name : String} {type : ColumnType}
    (typed : schema.columnType? name = some type) :
    declaredType? name (Catalog.stored (schema.createTable table withKey).sql.toList) =
      some type.made := by
  obtain ⟨before,after,split,_⟩ := List.lookup_eq_some_iff.mp typed
  have member : (name,folded type.sqlType) ∈
      Catalog.stored (schema.createTable table withKey).sql.toList := by
    rw [storable.stored,split]
    simp
  have known : (ColumnType.ofDataType? (folded type.sqlType)).isSome := by simp [type.ofDataType?_made]
  obtain ⟨read,same,found⟩ := (declares_of_mem storable.stored_distinct member known).type
  rw [found,← same,type.ofDataType?_made]

end TableSchema

-- A key has no capitals if its table has none.
theorem keyName_plain (plain : (table.schema?,table.name) = written table) :
    folded (TableSchema.keyName table) = TableSchema.keyName table := by
  have own := Text.folded_plain.mp (Prod.mk.inj plain).2.symm
  rw [Text.folded_plain,TableSchema.keyName,String.toList_append]
  exact List.forall_mem_append.mpr ⟨own,by simp⟩

theorem Accepted.storable {options : Options} {name : String} {source : Csv.Source} {handed : Feed}
    (accepted : Accepted options name source table handed) (sampled : handed.sampled ≠ 0)
    (plain : (table.schema?,table.name) = written table) :
    handed.schema.Storable table options.autoIncrement := by
  have fillable := (feed_handed accepted.fed).fillable
  obtain ⟨headers,header,_,_,read,_,_,rfl⟩ := feed_ok accepted.fed
  refine ⟨fillable.some,fillable.named,?_,TableSchema.distinct_of_headers read _,fun keyed => ?_⟩
  · rw [feedOf,TableSchema.observeAll_names,TableSchema.ofHeaders_names read]
    simp [folded_headerName]
  · obtain ⟨key,made⟩ := accepted.keyed sampled keyed
    rw [keyName_plain plain]
    exact (TableSchema.identityColumn_key made).2.2

namespace Opening

variable {c d : Catalog} {options : Options} {schema : TableSchema} {asked : List (Wanted × Statement)}
  {opened : Except Error TableSchema} {sent : List Sent}

-- A table that is made is there from then on, and with these columns if it is told truly of it that it
-- was not there.
theorem table_found (opening : Opening options table schema replies asked opened)
    (creates : .create ∈ asked.map (Effect.of ∘ asking)) (granted : answer replies 1 = .ok n)
    (others : ∀ s ∈ sent, Effect.of s = .insert) (serves : Serves c (asked.map asking ++ sent) replies d) :
    ∃ columns, d.find? (written table) = .some columns ∧ ((table.schema?,table.name) = written table →
      columns = Catalog.stored (schema.createTable table options.autoIncrement).sql.toList) := by
  have still : ∀ s ∈ sent, Effect.of s ≠ .drop ∧ Effect.of s ≠ .create := by
    intro s member
    simp [others s member]
  have next : answer replies.tail 0 = .ok n := by rw [answer_tail,granted]
  cases opening with
  | undropped | untold | taken | missed => simp at creates
  | remade _ dropped =>
    have last := ((serves.tail_of_granted dropped).tail_of_granted next).unchanged_of_others still
    rw [last,Catalog.find?_create,Catalog.find?_drop]
    exact ⟨_,rfl,fun _ => rfl⟩
  | made _ absent =>
    obtain ⟨missing,later⟩ := serves.told_eq absent
    have last := (later.tail_of_granted next).unchanged_of_others still
    rw [last,Catalog.find?_create]
    refine ⟨_,rfl,fun plain => ?_⟩
    have none : c.find? (written table) = none := by
      rw [← plain]
      simpa using missing.symm
    rw [none,Option.getD_none]

-- A load that keeps its table hears what the server has under the name that it looks for.
theorem heard_eq (opening : Opening options table schema replies asked opened)
    (keeps : options.dropIfExists = false) (heard : told replies = .ok there)
    (serves : Serves c (asked.map asking ++ sent) replies d) :
    there = (c.find? (table.schema?,table.name)).isSome ∧
      ∀ declared, there = true → described replies = .ok declared →
        declared = (c.find? (table.schema?,table.name)).getD [] := by
  cases opening with
  | undropped drops | remade drops => simp [keeps] at drops
  | untold _ failed => simp [failed] at heard
  | taken _ present =>
    obtain ⟨known,later⟩ := serves.told_eq heard
    exact ⟨known,fun declared _ described => later.described_eq described⟩
  | missed _ absent | made _ absent =>
    cases heard.symm.trans absent
    exact ⟨(serves.told_eq heard).1,fun _ impossible => Bool.noConfusion impossible⟩

end Opening

-- A load that sends the statement that makes its table, and is not refused it.
structure CreatesTable (options : Options) (name : String) (source : Csv.Source) (db : Db ρ) : Prop where
  sends : .create ∈ (sentBy (load options name source) db).map Effect.of
  granted : ∃ n, answer db.backend.replies 1 = .ok n

-- The table is there from then on.
theorem CreatesTable.leaves {options : Options} {name : String} {source : Csv.Source} {db : Db ρ}
    {c d : Catalog} (creates : CreatesTable options name source db)
    (serves : Serves c (sentBy (load options name source) db) db.backend.replies d) :
    ∃ table handed columns, Accepted options name source table handed ∧ handed.sampled ≠ 0 ∧
      d.find? (written table) = some columns ∧ ((table.schema?,table.name) = written table →
        columns = Catalog.stored (handed.schema.createTable table options.autoIncrement).sql.toList) := by
  obtain ⟨sends,n,granted⟩ := creates
  have began : sentBy (load options name source) db ≠ [] := by
    intro nothing
    rw [nothing] at sends
    cases sends
  obtain ⟨table,handed,accepted,sampled,lent⟩ := accepted_of_reached began
  obtain ⟨asked,opened,ss,sending⟩ := accepted.exists_sending sampled lent
  have creating : .create ∈ asked.map (Effect.of ∘ asking) := by
    rw [sending.map_effect] at sends
    simpa [List.mem_replicate] using sends
  rw [sending.order] at serves
  obtain ⟨columns,found,fresh⟩ := sending.opening.table_found creating granted sending.effect_of_insertion serves
  exact ⟨table,handed,columns,accepted,sampled,found,fresh⟩

-- A load that goes on with a table that was made with these types.
structure Resumes (before schema : TableSchema) (options : Options) (table : Ident)
    (records : List Csv.Record) (sent : List Sent) : Prop where
  unmade : .create ∉ sent.map Effect.of
  filled : ∀ s ∈ sent, Effect.of s = .insert → ∃ filled i t,
    TableSchema.columnNames filled = schema.columnNames ∧
    (∀ name type, before.columnType? name = some type →
      filled.columnType? name = (schema.columnType? name).map fun _ => type.made) ∧
    Inserts filled table (slice options.chunkSize records i) t ∧ s = asking (.count,t)

-- A load that takes its table for missing.
structure Misses (options : Options) (table : Ident) (sent : List Sent)
    (result : Except Stopped Report) : Prop where
  made : .create ∈ sent.map Effect.of ↔ options.createIfNotExists = true
  failed : options.createIfNotExists = false → result = .error ⟨0,missing table⟩

section Succession

variable {options : Options} {schema before : TableSchema} {records : List Csv.Record}
  {asked : List (Wanted × Statement)} {opened : Except Error TableSchema} {ss : List Statement}
  {sent : List Sent} {result : Except Stopped Report}

theorem Sending.misses
    (sending : Sending options table schema records replies asked opened ss sent result)
    (keeps : options.dropIfExists = false) (heard : told replies = .ok false) :
    Misses options table sent result := by
  have permits : Permits options replies := fun drops => by simp [keeps] at drops
  have absent : Absent options replies := .told keeps heard
  refine ⟨(sending.obeys_of_permits permits).creates.trans (and_iff_left absent),fun bound => ?_⟩
  exact sending.stopped _ (sending.opening.result_of_missing permits bound absent)

theorem Sending.resumes
    (sending : Sending options table schema records replies asked opened ss sent result)
    (keeps : options.dropIfExists = false) (heard : told replies = .ok true)
    (known : ∀ declared, described replies = .ok declared → ∀ name type,
      before.columnType? name = some type → declaredType? name declared = some type.made) :
    Resumes before schema options table records sent := by
  have permits : Permits options replies := fun drops => by simp [keeps] at drops
  obtain ⟨_,unmade,filled⟩ := (sending.obeys_of_permits permits).present keeps heard
  refine ⟨unmade,fun s member inserts => ?_⟩
  obtain ⟨declared,filled,i,t,read,typed,inserted,rfl⟩ := filled s member inserts
  refine ⟨filled,i,t,typed.names,fun name type own => ?_,inserted,rfl⟩
  rw [typed.types,known declared read name type own]
  rfl

end Succession

-- Databases that tell that a table is not there, and that it is.
def Keyed.absent : Db Nat := .ofBackend (.start .ready [.rows [[.bool false]],.affected 0,.affected 1])

def Keyed.present : Db Nat :=
  .ofBackend (.start .ready [.rows [[.bool true]],.rows [[.text "a",.text "bigint"]],.affected 1])

-- The tables before a first load under either name, and after it.
def Keyed.bare : Catalog := ⟨"public",[]⟩

def Keyed.furnished : Catalog := ⟨"public",[(("public","t"),[("a","bigint")])]⟩

theorem Keyed.bare_folded : bare.Folded := ⟨by decide,nofun⟩

theorem Keyed.after_create {table : Ident} (own : written table = (none,"t")) :
    bare.after (asking (.count,feed.schema.createTable table false)) = furnished := by
  have columns : Catalog.stored (feed.schema.createTable table false).sql.toList = [("a","bigint")] := by
    have named : ∀ name ∈ feed.schema.columnNames, IsName name := by decide
    rw [Catalog.stored,TableSchema.columnsMade_createTable (by simp [feed]) named,
      if_neg Bool.false_ne_true,List.nil_append]
    decide
  rw [Catalog.after_create,columns,own]
  rfl

theorem Keyed.served {table : Ident} (own : written table = (none,"t"))
    (inserts : Effect.of s = .insert)
    (sent : sentBy (load (options false true false) name filled) absent =
      [asking (.rows,tableExists table),asking (.count,feed.schema.createTable table false),s]) :
    CreatesTable (options false true false) name filled absent ∧
      Serves bare (sentBy (load (options false true false) name filled) absent)
        absent.backend.replies furnished := by
  refine ⟨⟨?_,0,rfl⟩,?_⟩
  · rw [sent]
    simp
  · have kept : furnished.after s = furnished := Catalog.after_other (by simp [inserts]) (by simp [inserts])
    have last : Serves furnished [s] [.affected 1] furnished := by
      refine .cons_affected (by simp [inserts]) ?_
      rw [kept]
      exact .done
    rw [sent]
    refine .cons_rows (Catalog.rows?_exists .rows) (.cons_affected (by simp) ?_)
    rw [Catalog.after_look (Effect.of_tableExists table .rows),after_create own]
    exact last

-- The statements of a load name its table as it is folded, and its probes as it is given. A table that
-- was made by one load is found by the next one under its name just when the last two parts are their
-- own folded form. Then its types are taken over; else it is taken for missing, though it is there.
theorem probed_target_iff (name : String) (table : Ident) (named : Ident.parse name = .ok table) :
    Names table ∧
    ((table.schema?,table.name) = written table ↔
      ∀ part ∈ table.parts.drop (table.parts.length - 2), folded part = part) ∧
    ∀ {ρ σ : Type} (first second : Options) (source more : Csv.Source) (db : Db ρ) (next : Db σ)
      (c d e : Catalog) (there : Bool), c.Folded → CreatesTable first name source db →
      Serves c (sentBy (load first name source) db) db.backend.replies d →
      second.dropIfExists = false → told next.backend.replies = .ok there →
      sentBy (load second name more) next ≠ [] →
      Serves d (sentBy (load second name more) next) next.backend.replies e →
      ∃ made fed, Accepted first name source table made ∧ Accepted second name more table fed ∧
        (d.find? (written table)).isSome = true ∧
        (there = true ↔ (table.schema?,table.name) = written table) ∧
        (there = true → Resumes made.schema fed.schema second table more.document.records
          (sentBy (load second name more) next)) ∧
        (there = false → Misses second table (sentBy (load second name more) next)
          (load second name more next).1) := by
  refine ⟨ident_names table,plain_iff,?_⟩
  intro ρ σ first second source more db next c d e there folds creates serves keeps heard reached later
  obtain ⟨same,made,columns,accepted,sampled,found,fresh⟩ := creates.leaves serves
  cases named.symm.trans accepted.named
  obtain ⟨same,fed,again,filled,ready⟩ := accepted_of_reached reached
  cases named.symm.trans again.named
  obtain ⟨asked,opened,ss,sending⟩ := again.exists_sending filled ready
  rw [sending.order] at later
  obtain ⟨told,described⟩ := sending.opening.heard_eq keeps heard later
  have exactly : there = true ↔ (table.schema?,table.name) = written table := by
    constructor
    · rintro rfl
      exact (serves.folded_after folds).written_of_found told.symm
    · intro plain
      rw [told,plain,found]
      rfl
  refine ⟨made,fed,accepted,again,by rw [found]; rfl,exactly,?_,?_⟩
  · rintro rfl
    have plain := exactly.mp rfl
    refine sending.resumes keeps heard fun declared read name type own => ?_
    rw [described declared rfl read,plain,found,Option.getD_some,fresh plain]
    exact (accepted.storable sampled plain).declared own
  · rintro rfl
    exact sending.misses keeps heard

theorem probed_target_found : Names Sample.table ∧
    Resumes Keyed.feed.schema Keyed.feed.schema (Keyed.options false true false) Sample.table
      Keyed.filled.document.records
      (sentBy (load (Keyed.options false true false) "t" Keyed.filled) Keyed.present) := by
  have accepted := Keyed.filled_accepted false true false
  have own : written Sample.table = (none,"t") := by decide
  have before : sentBy (load (Keyed.options false true false) "t" Keyed.filled) Keyed.absent =
      [asking (.rows,tableExists Sample.table),
        asking (.count,Keyed.feed.schema.createTable Sample.table false),
        (.count,"INSERT INTO t (a) VALUES ($1)",[.int 1])] := by
    rw [sentBy,accepted.load_run]
    rfl
  obtain ⟨creates,serves⟩ := Keyed.served own (by decide) before
  have sent : sentBy (load (Keyed.options false true false) "t" Keyed.filled) Keyed.present =
      [asking (.rows,tableExists Sample.table),asking (.rows,tableColumns Sample.table),
        (.count,"INSERT INTO t (a) VALUES ($1)",[.int 1])] := by
    rw [sentBy,accepted.load_run]
    rfl
  have later : ∃ d, Serves Keyed.furnished (sentBy (load (Keyed.options false true false) "t" Keyed.filled)
      Keyed.present) Keyed.present.backend.replies d := by
    rw [sent]
    refine ⟨_,.cons_rows (Catalog.rows?_exists .rows) (.cons_rows ?_ (.cons_affected (by decide) .done))⟩
    rw [Catalog.after_look (by simp)]
    exact Catalog.rows?_columns .rows
  obtain ⟨d,later⟩ := later
  obtain ⟨named,_,between⟩ := probed_target_iff "t" Sample.table rfl
  obtain ⟨made,fed,first,second,_,_,found,_⟩ := between (Keyed.options false true false)
    (Keyed.options false true false) Keyed.filled Keyed.filled Keyed.absent Keyed.present _ _ d true
    Keyed.bare_folded creates serves rfl rfl (by simp [sent]) later
  cases first.fed.symm.trans accepted.fed
  cases second.fed.symm.trans accepted.fed
  exact ⟨named,found rfl⟩

-- The server has the table, and is asked for it under a name that it has none of.
theorem not_always_found : Ident.parse "T" = .ok Keyed.capital ∧
    lookedFor? (asking (.rows,tableExists Keyed.capital)) = some (none,"T") ∧
    CreatesTable (Keyed.options false true false) "T" Keyed.filled Keyed.absent ∧
    Serves Keyed.bare (sentBy (load (Keyed.options false true false) "T" Keyed.filled) Keyed.absent)
      Keyed.absent.backend.replies Keyed.furnished ∧
    Keyed.furnished.find? (none,"t") = some [("a","bigint")] ∧
    Serves Keyed.furnished (sentBy (load (Keyed.options false false false) "T" Keyed.filled) Keyed.absent)
      Keyed.absent.backend.replies Keyed.furnished ∧
    (load (Keyed.options false false false) "T" Keyed.filled Keyed.absent).1 =
      .error ⟨0,missing Keyed.capital⟩ := by
  have own : written Keyed.capital = (none,"t") := by decide
  have accepted (creates : Bool) : Accepted (Keyed.options false creates false) "T" Keyed.filled
      Keyed.capital Keyed.feed :=
    ⟨rfl,rfl,(Keyed.filled_accepted false creates false).fed,nofun⟩
  have before : sentBy (load (Keyed.options false true false) "T" Keyed.filled) Keyed.absent =
      [asking (.rows,tableExists Keyed.capital),
        asking (.count,Keyed.feed.schema.createTable Keyed.capital false),
        (.count,"INSERT INTO T (a) VALUES ($1)",[.int 1])] := by
    rw [sentBy,(accepted true).load_run]
    rfl
  obtain ⟨creates,serves⟩ := Keyed.served own (by decide) before
  have sent : sentBy (load (Keyed.options false false false) "T" Keyed.filled) Keyed.absent =
      [asking (.rows,tableExists Keyed.capital)] := by
    rw [sentBy,(accepted false).load_run]
    rfl
  refine ⟨rfl,lookedFor?_tableExists Keyed.capital .rows,creates,serves,rfl,?_,?_⟩
  · rw [sent]
    refine .cons_rows (Catalog.rows?_exists .rows) ?_
    rw [Catalog.after_look (by simp)]
    exact .done
  · rw [(accepted false).load_run]
    rfl

end DataAccess.Load
