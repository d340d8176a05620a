import DataAccess.Proofs.Load.TableOptions
import DataAccess.Proofs.Text.Capitals
import DataAccess.Proofs.Text.Pieces

-- What a server reads in the statements of a load: the table that one names, the columns that a
-- table is made with, and the table that is looked for. Names that are not quoted it folds; what is
-- bound it takes as it is.
namespace DataAccess.Load
open DataAccess.Part
open Statement (ofParts ofParts_sql placeholder)
open Text (folded words isBlank)

-- A table's own name and the schema before it, if one is named.
abbrev Target := Option String × String

-- The words that a table is named behind.
def tableLeads : List String := ["DROP TABLE IF EXISTS ","CREATE TABLE IF NOT EXISTS ","INSERT INTO "]

-- The table that is named: the last two parts of what stands between the blanks.
def target? (sql : List Char) : Option Target :=
  (tableLeads.find? fun lead => lead.toList.isPrefixOf sql).bind fun lead =>
    let name := (sql.drop lead.toList.length).takeWhile fun c => !isBlank c
    let parts := Ident.segments (String.ofList name)
    parts.getLast?.map fun own => (parts.dropLast.getLast?.map folded,folded own)

-- A column has its name in the first word and its type in the words after it.
def typeOf (words : List (List Char)) : String :=
  " ".intercalate ((words.takeWhile (· ≠ "GENERATED".toList)).map String.ofList)

def columnMade? (item : List Char) : Option (String × String) :=
  match words item with
  | [] => none
  | name :: type => some (String.ofList name,typeOf type)

-- The columns that a table is made with, which stand between the brackets.
def columnsMade (sql : List Char) : List (String × String) :=
  ((((sql.dropWhile (· != '(')).drop 1).dropLast).splitOn ',').filterMap columnMade?

-- What a column of the server's own tables is compared with.
def comparedTo? (column : String) : List (List Char) → Option (List Char)
  | own :: sign :: operand :: rest =>
    if own = column.toList ∧ sign = ['='] then some operand
    else comparedTo? column (sign :: operand :: rest)
  | _ => none

def boundText? (params : List Value) : List Char → Option String
  | '$' :: rest =>
    match (Number.digits? (rest.takeWhile Char.isDigit)).bind fun n => params[n - 1]? with
    | some (.text s) => some s
    | _ => none
  | _ => none

-- The table that a probe looks for.
def lookedFor? (sent : Sent) : Option Target :=
  let text := words sent.2.1.toList
  match comparedTo? "table_schema" text,(comparedTo? "table_name" text).bind (boundText? sent.2.2) with
  | some operand,some name =>
    if operand = "current_schema()".toList then some (none,name)
    else (boundText? sent.2.2 operand).map fun schema => (some schema,name)
  | _,_ => none

-- A table as it is named where its identifier is written.
def written (table : Ident) : Target := (table.schema?.map folded,folded table.name)

-- None of these words is the beginning of another.
theorem lead_found {lead : String} (known : lead ∈ tableLeads) (rest : List Char) :
    (tableLeads.find? fun other => other.toList.isPrefixOf (lead.toList ++ rest)) = some lead := by
  have own : lead.toList.isPrefixOf (lead.toList ++ rest) = true :=
    List.isPrefixOf_iff_prefix.mpr (List.prefix_append _ _)
  simp only [tableLeads,List.mem_cons,List.not_mem_nil,or_false] at known
  rcases known with rfl | rfl | rfl
  · exact List.find?_cons_of_pos own
  · refine (List.find?_cons_of_neg ?_).trans (List.find?_cons_of_pos own)
    rw [String.toList_ofList,String.toList_ofList]
    exact Bool.false_ne_true
  · refine (List.find?_cons_of_neg ?_).trans
      ((List.find?_cons_of_neg ?_).trans (List.find?_cons_of_pos own)) <;>
    · rw [String.toList_ofList,String.toList_ofList]
      exact Bool.false_ne_true

theorem target?_named {lead : String} (known : lead ∈ tableLeads) (table : Ident) {rest : List Char}
    (ends : ∀ c ∈ rest.head?, isBlank c = true) :
    target? (lead.toList ++ (table.sql.toList ++ rest)) = some (written table) := by
  have solid : ∀ c ∈ table.sql.toList, (!isBlank c) = true := by
    intro c member
    rcases table.sql_characters c member with rfl | continues
    · decide
    · simp [continuesName_solid continues]
  have stops : rest.takeWhile (fun c => !isBlank c) = [] := by
    cases rest with
    | nil => rfl
    | cons c rest => simp [ends c rfl]
  have read : Ident.segments table.sql = table.parts := Ident.segments_join table.nonempty table.named
  rw [target?,lead_found known,Option.bind_some,List.drop_left,List.takeWhile_append_of_pos solid,stops,
    List.append_nil]
  dsimp only
  rw [String.ofList_toList,read,List.getLast?_eq_some_getLast table.nonempty]
  rfl

theorem target?_ofParts {lead : String} (known : lead ∈ tableLeads) (table : Ident) {rest : List Part}
    (ends : ∀ c ∈ (write 0 rest).head?, isBlank c = true) :
    target? (ofParts (.text lead :: .text table.sql :: rest)).sql.toList = some (written table) := by
  rw [ofParts_sql]
  exact target?_named known table ends

theorem target?_dropTable (table : Ident) : target? (dropTable table).sql.toList = some (written table) := by
  have laid : dropTable table = ofParts [.text "DROP TABLE IF EXISTS ",.text table.sql] := by
    rw [dropTable,Statement.pushIdent_add,Statement.ofText_parts,Statement.ofParts_add]
    rfl
  rw [laid]
  exact target?_ofParts (by simp [tableLeads]) table (by simp [write])

theorem target?_createTable (schema : TableSchema) (table : Ident) (withKey : Bool) :
    target? (schema.createTable table withKey).sql.toList = some (written table) := by
  rw [schema.createTable_parts]
  refine target?_ofParts (by simp [tableLeads]) table ?_
  intro c first
  cases first
  decide

theorem target?_insertParts (table : Ident) (columns : List Ident) (rows : List Row) :
    target? (ofParts (Query.Insert.parts table columns rows)).sql.toList = some (written table) := by
  refine target?_ofParts (by simp [tableLeads]) table ?_
  intro c first
  cases first
  decide

-- The operands in the words of a probe.
def Compares (sql schema name : List Char) : Prop :=
  comparedTo? "table_schema" (words sql) = some schema ∧ comparedTo? "table_name" (words sql) = some name

instance (sql schema name : List Char) : Decidable (Compares sql schema name) := by
  unfold Compares
  infer_instance

def probeText (lead operand name close : String) : List Char :=
  lead.toList ++ (operand.toList ++ (" AND table_name = ".toList ++ (name.toList ++ close.toList)))

-- Both probes have this form. The last word goes on behind its placeholder.
theorem lookedFor?_probe {lead close : String} (behind : List Char)
    (ends : behind.takeWhile Char.isDigit = [])
    (current : Compares (probeText lead "current_schema()" (placeholder 1) close)
      "current_schema()".toList ('$' :: '1' :: behind))
    (bound : Compares (probeText lead (placeholder 1) (placeholder 2) close)
      ['$','1'] ('$' :: '2' :: behind)) (table : Ident) (wanted : Wanted) :
    lookedFor? (asking (wanted,(((pushSchema (Statement.ofText lead) table).push
      " AND table_name = ").bind (.text table.name)).push close)) = some (table.schema?,table.name) := by
  have first (name : String) : boundText? [.text name] ('$' :: '1' :: behind) = some name := by
    simp [boundText?,ends]
    rfl
  have second (schema name : String) :
      boundText? [.text schema,.text name] ('$' :: '2' :: behind) = some name := by
    simp [boundText?,ends]
    rfl
  have text (operand name : String) : (lead ++ operand ++ " AND table_name = " ++ name ++ close).toList =
      probeText lead operand name close := by
    simp only [String.toList_append,List.append_assoc,probeText]
  unfold pushSchema
  cases table.schema? with
  | none =>
    change lookedFor? (wanted,lead ++ "current_schema()" ++ " AND table_name = " ++ placeholder 1 ++ close,
      [.text table.name]) = _
    rw [lookedFor?,text,current.1,current.2,Option.bind_some,first]
    rfl
  | some schema =>
    change lookedFor? (wanted,lead ++ placeholder 1 ++ " AND table_name = " ++ placeholder 2 ++ close,
      [.text schema,.text table.name]) = _
    rw [lookedFor?,text,bound.1,bound.2,Option.bind_some,second]
    rfl

-- A literal's characters are taken from the literal, and not worked out again from its bytes.
theorem lookedFor?_tableExists (table : Ident) (wanted : Wanted) :
    lookedFor? (asking (wanted,tableExists table)) = some (table.schema?,table.name) := by
  refine lookedFor?_probe [')'] rfl ?_ ?_ table wanted
  · rw [probeText,String.toList_ofList]
    decide +kernel
  · rw [probeText,String.toList_ofList]
    decide +kernel

theorem lookedFor?_tableColumns (table : Ident) (wanted : Wanted) :
    lookedFor? (asking (wanted,tableColumns table)) = some (table.schema?,table.name) := by
  refine lookedFor?_probe [] rfl ?_ ?_ table wanted
  · rw [probeText,String.toList_append,String.toList_ofList,String.toList_ofList]
    decide +kernel
  · rw [probeText,String.toList_append,String.toList_ofList,String.toList_ofList]
    decide +kernel

namespace TableSchema

-- The key column comes first, and each column is written as its name and its type.
def keyItem (table : Ident) : List Char :=
  (keyName table).toList ++ ' ' :: "BIGINT GENERATED BY DEFAULT AS IDENTITY PRIMARY KEY".toList

def columnItem (column : String × ColumnType) : List Char :=
  column.1.toList ++ ' ' :: column.2.sqlType.toList

def items (schema : TableSchema) (table : Ident) (withKey : Bool) : List (List Char) :=
  (if withKey then [keyItem table] else []) ++ schema.columns.map columnItem

theorem createTable_items {schema : TableSchema} (some : schema.columns ≠ []) (table : Ident)
    (withKey : Bool) : (schema.createTable table withKey).sql.toList =
      "CREATE TABLE IF NOT EXISTS ".toList ++ (table.sql.toList ++ (' ' :: '(' ::
        (List.intercalate [',',' '] (schema.items table withKey) ++ [')']))) := by
  have columns (bound : Nat) : write bound (joined ", " columnParts schema.columns) =
      List.intercalate [',',' '] (schema.columns.map columnItem) := by
    rw [write_plain ", " (fun _ => rfl)]
    refine congrArg (List.intercalate _) (List.map_congr_left fun column _ => ?_)
    simp [columnParts,columnItem,write]
  have inside (bound : Nat) : write bound (keyParts table withKey ++ (joined ", " columnParts
      schema.columns ++ [.text ")"])) =
        List.intercalate [',',' '] (schema.items table withKey) ++ [')'] := by
    rw [write_append,write_append,columns,items]
    cases withKey with
    | false => simp [keyParts,write]
    | true =>
      cases listed : schema.columns with
      | nil => exact absurd listed some
      | cons column columns => simp [keyParts,write,keyItem]
  rw [createTable_parts,ofParts_sql,createParts,write_append,inside]
  simp [write]

theorem keyName_characters (table : Ident) :
    (keyName table).toList ≠ [] ∧ ∀ c ∈ (keyName table).toList, continuesName c = true := by
  have own := table.name_named.characters
  have key : (keyName table).toList = table.name.toList ++ ['_','i','d'] := by simp [keyName]
  rw [key]
  refine ⟨by simp,?_⟩
  intro c member
  rcases List.mem_append.mp member with early | late
  · exact own c early
  · simp only [List.mem_cons,List.not_mem_nil,or_false] at late
    rcases late with rfl | rfl | rfl <;> decide

theorem columnMade?_named {name : String} (some : name.toList ≠ [])
    (word : ∀ c ∈ name.toList, continuesName c = true) (type : List Char) :
    columnMade? (name.toList ++ ' ' :: type) = Option.some (name,typeOf (words type)) := by
  have solid : ∀ c ∈ name.toList, isBlank c = false := fun c member => continuesName_solid (word c member)
  rw [columnMade?,(Text.words_word some solid).2 ' ' type (by decide)]
  dsimp only
  rw [String.ofList_toList]

theorem columnMade?_blank (item : List Char) : columnMade? (' ' :: item) = columnMade? item := by
  rw [columnMade?,Text.words_blank (by decide)]
  rfl

theorem keyItem_read (table : Ident) : columnMade? (keyItem table) = some (keyName table,"BIGINT") := by
  obtain ⟨some,word⟩ := keyName_characters table
  have read := columnMade?_named some word "BIGINT GENERATED BY DEFAULT AS IDENTITY PRIMARY KEY".toList
  have type : typeOf (words "BIGINT GENERATED BY DEFAULT AS IDENTITY PRIMARY KEY".toList) = "BIGINT" := by
    rw [String.toList_ofList]
    decide +kernel
  rw [type] at read
  exact read

theorem columnItem_read {column : String × ColumnType} (named : IsName column.1) :
    columnMade? (columnItem column) = some (column.1,column.2.sqlType) := by
  obtain ⟨name,type⟩ := column
  obtain ⟨first,rest,spelled,_⟩ := named.spelled
  have read := columnMade?_named (by simp [spelled]) named.characters type.sqlType.toList
  have own : typeOf (words type.sqlType.toList) = type.sqlType := by cases type <;> decide +kernel
  rw [own] at read
  exact read

theorem items_read {schema : TableSchema} (named : ∀ name ∈ schema.columnNames, IsName name)
    (table : Ident) (withKey : Bool) : (schema.items table withKey).filterMap columnMade? =
      (if withKey then [(keyName table,"BIGINT")] else []) ++
        schema.columns.map fun column => (column.1,column.2.sqlType) := by
  have columns : (schema.columns.map columnItem).filterMap columnMade? =
      schema.columns.map fun column => (column.1,column.2.sqlType) := by
    rw [List.filterMap_map,← List.filterMap_eq_map]
    refine List.filterMap_congr fun column member => ?_
    exact columnItem_read (named column.1 (List.mem_map_of_mem member))
  rw [items,List.filterMap_append,columns]
  cases withKey <;> simp [keyItem_read]

theorem items_undivided {schema : TableSchema} (named : ∀ name ∈ schema.columnNames, IsName name)
    (table : Ident) (withKey : Bool) :
    ∀ item ∈ schema.items table withKey, ',' ∉ item := by
  have apart {c : Char} (word : continuesName c = true) : c ≠ ',' := by
    rintro rfl
    exact absurd word (by decide)
  intro item member
  rcases List.mem_append.mp member with key | column
  · cases withKey with
    | false => cases key
    | true =>
      cases List.mem_singleton.mp key
      have type : ',' ∉ ' ' :: "BIGINT GENERATED BY DEFAULT AS IDENTITY PRIMARY KEY".toList := by
        rw [String.toList_ofList]
        decide
      refine List.not_mem_append (fun inside => ?_) type
      exact apart ((keyName_characters table).2 _ inside) rfl
  · obtain ⟨⟨name,type⟩,own,rfl⟩ := List.mem_map.mp column
    have bare : ',' ∉ ' ' :: type.sqlType.toList := by cases type <;> decide
    refine List.not_mem_append (fun inside => ?_) bare
    exact apart ((named name (List.mem_map_of_mem own)).characters _ inside) rfl

theorem columnsMade_createTable {schema : TableSchema} (some : schema.columns ≠ [])
    (named : ∀ name ∈ schema.columnNames, IsName name) (table : Ident) (withKey : Bool) :
    columnsMade (schema.createTable table withKey).sql.toList =
      (if withKey then [(keyName table,"BIGINT")] else []) ++
        schema.columns.map fun column => (column.1,column.2.sqlType) := by
  have before {s : List Char} (bare : '(' ∉ s) : ∀ c ∈ s, (c != '(') = true := by
    intro c member
    rw [bne_iff_ne]
    rintro rfl
    exact bare member
  have lead : '(' ∉ "CREATE TABLE IF NOT EXISTS ".toList := by
    rw [String.toList_ofList]
    decide
  have own : '(' ∉ table.sql.toList := table.sql_without (by decide) (by decide)
  have undivided := items_undivided named table withKey
  rw [columnsMade,createTable_items some,List.dropWhile_append_of_pos (before lead),
    List.dropWhile_append_of_pos (before own),List.dropWhile_cons_of_pos (by decide),
    List.dropWhile_cons_of_neg (by decide),List.drop_one,List.tail_cons,List.dropLast_concat,
    ← items_read named]
  cases listed : schema.items table withKey with
  | nil => rfl
  | cons first others =>
    rw [listed] at undivided
    obtain ⟨early,later⟩ := List.forall_mem_cons.mp undivided
    rw [Text.splitOn_joined early (by decide) later,List.filterMap_cons,
      List.filterMap_cons,List.filterMap_map]
    have same : columnMade? ∘ ([' '] ++ ·) = columnMade? := funext columnMade?_blank
    rw [same]

end TableSchema

end DataAccess.Load
