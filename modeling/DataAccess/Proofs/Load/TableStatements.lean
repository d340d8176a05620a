import DataAccess.Load.TableSchema
import DataAccess.Proofs.Ident.Characters
import DataAccess.Proofs.Statement.Numbering

-- The statements that prepare a table, laid out in parts. Column names stand in them as they are,
-- so a schema has to come from headers, which are names.
namespace DataAccess.Load
open DataAccess.Part
open Statement (ofParts ofText_parts ofParts_add add_add push_add pushIdent_add bind_add joined_add
  binds_of_legible)

namespace TableSchema

-- Schemas as a load has them: read from headers, then changed by records and by a table.
inductive Inferred : TableSchema → Prop where
  | headers (read : ofHeaders headers = .ok schema) : Inferred schema
  | observe (prior : Inferred schema) (record : List String) : Inferred (schema.observe record)
  | adopt (prior : Inferred schema) (declared : List (String × String)) :
      Inferred (schema.adopt declared)

theorem normalizeHeader_named (read : normalizeHeader raw = .ok name) : IsName name := by
  unfold normalizeHeader at read
  split at read
  · cases read
  · rename_i named
    cases read
    exact named

theorem namesAfter_named (read : namesAfter seen raws = .ok names) :
    ∀ name ∈ names, IsName name := by
  induction raws generalizing seen names with
  | nil =>
    cases read
    simp
  | cons raw raws ih =>
    unfold namesAfter at read
    split at read
    · cases read
    · rename_i own normalized
      split at read
      · cases read
      · split at read
        · cases read
        · rename_i others further
          cases read
          intro name member
          rcases List.mem_cons.mp member with rfl | later
          · exact normalizeHeader_named normalized
          · exact ih further name later

theorem ofHeaders_named (read : ofHeaders headers = .ok schema) :
    ∀ name ∈ schema.columnNames, IsName name := by
  unfold ofHeaders at read
  split at read
  · cases read
  · cases read
  · rename_i names named
    cases read
    simpa [columnNames] using namesAfter_named named

theorem observe_names (schema : TableSchema) (record : List String) :
    (schema.observe record).columnNames = schema.columnNames := by
  have each : ∀ (columns : List (String × ColumnType)) (record : List String),
      (observeCells columns record).map (·.1) = columns.map (·.1) := by
    intro columns record
    fun_induction observeCells columns record with
    | case1 name type columns cell cells ih => simp [ih]
    | case2 => rfl
  exact each schema.columns record

theorem setType_names (name : String) (type : ColumnType) (columns : List (String × ColumnType)) :
    (setType name type columns).map (·.1) = columns.map (·.1) := by
  induction columns with
  | nil => rfl
  | cons column rest ih =>
    unfold setType
    split <;> simp [ih]

theorem adopt_names (schema : TableSchema) (declared : List (String × String)) :
    (schema.adopt declared).columnNames = schema.columnNames := by
  unfold adopt
  induction declared generalizing schema with
  | nil => rfl
  | cons entry declared ih =>
    obtain ⟨name,dataType⟩ := entry
    rw [List.foldl_cons,ih]
    cases known : ColumnType.ofDataType? dataType with
    | none => simp only [known]
    | some type => simpa only [known,columnNames] using setType_names name type schema.columns

theorem Inferred.named {schema : TableSchema} (inferred : Inferred schema) :
    ∀ name ∈ schema.columnNames, IsName name := by
  induction inferred with
  | headers read => exact ofHeaders_named read
  | observe prior record ih => rwa [observe_names]
  | adopt prior declared ih => rwa [adopt_names]

def columnParts (column : String × ColumnType) : List Part :=
  [.text column.1,.text " ",.text column.2.sqlType]

def keyParts (table : Ident) (withKey : Bool) : List Part :=
  if withKey then
    [.text (keyName table),.text " BIGINT GENERATED BY DEFAULT AS IDENTITY PRIMARY KEY, "]
  else []

def createParts (schema : TableSchema) (table : Ident) (withKey : Bool) : List Part :=
  [.text "CREATE TABLE IF NOT EXISTS ",.text table.sql,.text " ("] ++ (keyParts table withKey ++
    (joined ", " columnParts schema.columns ++ [.text ")"]))

theorem pushColumns_add (s : Statement) (columns : List (String × ColumnType)) :
    pushColumns s columns = s.add (joined ", " columnParts columns) := by
  cases columns with
  | nil => rfl
  | cons column columns => exact joined_add ", " columnParts _ (fun _ _ => rfl) s column columns

theorem createTable_parts (schema : TableSchema) (table : Ident) (withKey : Bool) :
    schema.createTable table withKey = ofParts (createParts schema table withKey) := by
  have opened : ((Statement.ofText "CREATE TABLE IF NOT EXISTS ").pushIdent table).push " (" =
      ofParts [.text "CREATE TABLE IF NOT EXISTS ",.text table.sql,.text " ("] := by
    rw [ofText_parts,pushIdent_add]
    rfl
  have written (parts : List Part) :
      (pushColumns (ofParts parts) schema.columns).push ")" =
        ofParts (parts ++ (joined ", " columnParts schema.columns ++ [.text ")"])) := by
    rw [push_add,pushColumns_add,ofParts_add,ofParts_add,List.append_assoc]
  unfold createTable createParts keyParts
  rw [opened]
  cases withKey with
  | false => exact written _
  | true =>
    exact written [.text "CREATE TABLE IF NOT EXISTS ",.text table.sql,.text " (",
      .text (keyName table),.text " BIGINT GENERATED BY DEFAULT AS IDENTITY PRIMARY KEY, "]

theorem keyName_plain (table : Ident) : '$' ∉ (keyName table).toList := by
  simp [keyName,table.name_named.plain]

theorem createParts_legible {schema : TableSchema} (inferred : Inferred schema) (table : Ident)
    (withKey : Bool) : Legible false (createParts schema table withKey) := by
  have columns : Legible false (joined ", " columnParts schema.columns) := by
    refine legible_joined (by decide) fun column member => ?_
    have named := inferred.named column.1 (List.mem_map_of_mem member)
    have type : '$' ∉ column.2.sqlType.toList := by cases column.2 <;> decide
    simp [columnParts,Legible,named.plain,type]
  have closed : Legible false (joined ", " columnParts schema.columns ++ [.text ")"]) :=
    columns.append (by simp [Legible])
  have key := keyName_plain table
  cases withKey with
  | false => simpa [createParts,keyParts,Legible,table.sql_plain] using closed
  | true => simpa [createParts,keyParts,Legible,table.sql_plain,key] using closed

theorem createTable_binds {schema : TableSchema} (inferred : Inferred schema) (table : Ident)
    (withKey : Bool) : (schema.createTable table withKey).Binds [] := by
  have none : Part.values (createParts schema table withKey) = [] := by
    cases withKey <;>
      simp [createParts,keyParts,Part.values,values_append,values_joined,columnParts]
  rw [createTable_parts,← none]
  exact binds_of_legible (createParts_legible inferred table withKey)

end TableSchema

theorem dropTable_binds (table : Ident) : (dropTable table).Binds [] := by
  have legible : Legible false [.text "DROP TABLE IF EXISTS ",.text table.sql] := by
    simp [Legible,table.sql_plain]
  have bound := binds_of_legible legible
  rwa [dropTable,pushIdent_add,ofText_parts,ofParts_add]

-- What a probe asks for: the schema of the table, if it has one, and its name.
def probed (table : Ident) : List Value :=
  (table.schema?.map Value.text).toList ++ [.text table.name]

def schemaParts (table : Ident) : List Part :=
  match table.schema? with
  | some schema => [.value (.text schema)]
  | none => [.text "current_schema()"]

theorem pushSchema_add (s : Statement) (table : Ident) :
    pushSchema s table = s.add (schemaParts table) := by
  unfold pushSchema schemaParts
  cases table.schema? <;> rfl

-- Both probes have this form.
theorem probe_binds {lead close : String} (plain : '$' ∉ lead.toList) (closes : Separates close)
    (table : Ident) :
    ((((pushSchema (Statement.ofText lead) table).push " AND table_name = ").bind
      (.text table.name)).push close).Binds (probed table) := by
  have asked : Legible false ([.text lead] ++ schemaParts table) := by
    unfold schemaParts
    cases table.schema? <;> simp [Legible,plain]
  have ended : Legible true [.text close] :=
    closes.legible (show Legible false [] from trivial) true
  have named : Legible true [.text " AND table_name = ",.value (.text table.name),.text close] :=
    Separates.legible (by decide)
      (show Legible false [.value (.text table.name),.text close] from ended) true
  have bound := binds_of_legible (asked.append named)
  have same : values ([.text lead] ++ schemaParts table ++
      [.text " AND table_name = ",.value (.text table.name),.text close]) = probed table := by
    unfold schemaParts probed
    cases table.schema? <;> rfl
  rw [same] at bound
  rw [push_add,bind_add,push_add,pushSchema_add,ofText_parts,ofParts_add,add_add,add_add,ofParts_add]
  exact bound

theorem tableExists_binds (table : Ident) : (tableExists table).Binds (probed table) :=
  probe_binds (by simp) (by decide) table

theorem tableColumns_binds (table : Ident) : (tableColumns table).Binds (probed table) :=
  probe_binds (by simp) (by decide) table

end DataAccess.Load
