import DataAccess.Proofs.Load.TableOptions
import DataAccess.Proofs.Wire.RoundTrip

-- What a load makes of cells, the server takes. The types that columns are loaded as, those that a
-- table declares and those that values are sent in are three lists that have to agree; where they
-- do, only a whole number may be refused, by a column that was declared narrower than a load makes
-- one.
namespace DataAccess.Load
open Wire

-- The type of a column that is declared with a name.
def typeNamed? (name : String) : Option ServerType :=
  match String.ofList (Text.asciiLower (Text.trim name.toList)) with
  | "smallint" => some .int2
  | "integer" => some .int4
  | "bigint" => some .int8
  | "real" => some .float4
  | "double precision" => some .float8
  | "date" => some .date
  | "text" => some .text
  | "character varying" => some .varchar
  | "character" => some .bpchar
  | _ => none

-- The columns that cells of a type are put into.
inductive Fills : ColumnType → ServerType → Prop where
  | whole (known : wholeWidth? server = some width) : Fills .integer server
  | single : Fills .float .float4
  | double : Fills .float .float8
  | date : Fills .date .date
  | text (other : type = .unknown ∨ type = .text) (holds : server.isText) : Fills type server

-- What cells of a type become.
inductive Holds : ColumnType → Value → Prop where
  | blank : Holds type .null
  | whole (n : Int64) : Holds .integer (.int n)
  | float (x : Number.Double) : Holds .float (.float x)
  | date (d : Calendar.Date) : Holds .date (.date d)
  | text (other : type = .unknown ∨ type = .text) (s : String) : Holds type (.text s)

-- The whole numbers that a column of such a type has no room for.
def Overflows (server : ServerType) (n : Int64) : Prop :=
  server = .int2 ∧ ¬(-32768 ≤ n.toInt ∧ n.toInt < 32768) ∨
    server = .int4 ∧ ¬(-2147483648 ≤ n.toInt ∧ n.toInt < 2147483648)

def Encodes (server : ServerType) (v : Value) : Prop := ∃ cell, encode server v = .ok cell

theorem Encodes.not_refused (encodes : Encodes server v) : ¬Refuses server v := by
  obtain ⟨cell,sent⟩ := encodes
  rintro ⟨fault,refused⟩
  cases sent.symm.trans refused

namespace ColumnType

theorem toValue_holds {type : ColumnType} {cell : String} (read : type.toValue cell = .ok v) :
    Holds type v := by
  unfold toValue at read
  dsimp only at read
  split at read
  · cases read
    exact .blank
  · cases type with
    | integer | float | date =>
      dsimp only at read
      split at read
      · cases read
        constructor
      · cases read
    | unknown =>
      cases read
      exact .text (.inl rfl) cell
    | text =>
      cases read
      exact .text (.inr rfl) cell

theorem ofDataType_fills {type : ColumnType} (known : ofDataType? dataType = some type) :
    ∃ server, typeNamed? dataType = some server ∧ Fills type server := by
  unfold ofDataType? at known
  unfold typeNamed?
  generalize String.ofList (Text.asciiLower (Text.trim dataType.toList)) = name at known ⊢
  split at known
  · cases known
    exact ⟨.int2,rfl,.whole rfl⟩
  · cases known
    exact ⟨.int4,rfl,.whole rfl⟩
  · cases known
    exact ⟨.int8,rfl,.whole rfl⟩
  · cases known
    exact ⟨.float4,rfl,.single⟩
  · cases known
    exact ⟨.float8,rfl,.double⟩
  · cases known
    exact ⟨.date,rfl,.date⟩
  · cases known
    exact ⟨.text,rfl,.text (.inr rfl) rfl⟩
  · cases known
    exact ⟨.varchar,rfl,.text (.inr rfl) rfl⟩
  · cases known
    exact ⟨.bpchar,rfl,.text (.inr rfl) rfl⟩
  · cases known

-- A column that a load makes has room for every whole number.
theorem sqlType_fills (type : ColumnType) : ∃ server, typeNamed? type.sqlType = some server ∧
    Fills type server ∧ ∀ n, ¬Overflows server n := by
  have roomy {server : ServerType} (two : server ≠ .int2) (four : server ≠ .int4) :
      ∀ n, ¬Overflows server n := by
    rintro n (⟨same,_⟩ | ⟨same,_⟩)
    · exact two same
    · exact four same
  cases type with
  | integer => exact ⟨.int8,by decide,.whole rfl,roomy nofun nofun⟩
  | float => exact ⟨.float8,by decide,.double,roomy nofun nofun⟩
  | date => exact ⟨.date,by decide,.date,roomy nofun nofun⟩
  | unknown => exact ⟨.text,by decide,.text (.inl rfl) rfl,roomy nofun nofun⟩
  | text => exact ⟨.text,by decide,.text (.inr rfl) rfl,roomy nofun nofun⟩

end ColumnType

theorem overflows_iff (whole : wholeWidth? server = some width) (n : Int64) :
    Overflows server n ↔ ¬Signed width n.toInt := by
  unfold Overflows
  cases server with
  | int2 =>
    cases whole
    simp [signed_two]
  | int4 =>
    cases whole
    simp [signed_four]
  | int8 =>
    cases whole
    simp [int64_signed]
  | _ => cases whole

-- Of what cells become, a column that they are put into refuses the numbers that it has no room for.
theorem Fills.refuses_iff (fills : Fills type server) (holds : Holds type v) :
    Refuses server v ↔ ∃ n, v = .int n ∧ Overflows server n := by
  have sent (encodes : Encodes server v) (other : ∀ n, v ≠ .int n) :
      Refuses server v ↔ ∃ n, v = .int n ∧ Overflows server n := by
    refine iff_of_false encodes.not_refused ?_
    rintro ⟨n,same,_⟩
    exact other n same
  cases holds with
  | blank => exact sent ⟨none,by rfl⟩ nofun
  | whole n =>
    cases fills with
    | whole known =>
      rw [(binds_whole known n).2,← overflows_iff known]
      simp
    | text other => rcases other with other | other <;> cases other
  | float x =>
    cases fills with
    | single | double => exact sent ⟨_,rfl⟩ nofun
    | text other => rcases other with other | other <;> cases other
  | date d =>
    cases fills with
    | date => exact sent ⟨_,encode_date d⟩ nofun
    | text other => rcases other with other | other <;> cases other
  | text other s =>
    cases fills with
    | text _ column => exact sent ⟨_,encode_text column (.inr ⟨s,rfl⟩)⟩ nofun
    | _ => rcases other with other | other <;> cases other

theorem encodes_of_not_refused (accepted : ¬Refuses server v) : Encodes server v := by
  cases sent : encode server v with
  | ok cell => exact ⟨cell,sent⟩
  | error fault => exact absurd ⟨fault,sent⟩ accepted

namespace TableSchema

theorem valuesOf_at {columns : List (String × ColumnType)} {cells : List String} {i : Nat}
    (read : valuesOf line columns cells = .ok row) (converted : row[i]? = some v) :
    ∃ name type cell, columns[i]? = some (name,type) ∧ type.toValue cell = .ok v := by
  induction columns generalizing cells row i with
  | nil =>
    cases read
    cases converted
  | cons column columns ih =>
    obtain ⟨name,type⟩ := column
    cases cells with
    | nil =>
      cases read
      cases converted
    | cons cell cells =>
      unfold valuesOf at read
      split at read
      · cases read
      · rename_i first own
        split at read
        · cases read
        · rename_i rest further
          cases read
          cases i with
          | zero =>
            cases converted
            exact ⟨name,type,cell,rfl,own⟩
          | succ i => exact ih further converted

theorem columnType?_at {schema : TableSchema} {i : Nat} (distinct : schema.columnNames.Nodup)
    (found : schema.columns[i]? = some (name,type)) : schema.columnType? name = some type := by
  obtain ⟨columns⟩ := schema
  unfold columnType?
  induction columns generalizing i with
  | nil => cases found
  | cons column columns ih =>
    obtain ⟨apart,distinct⟩ := List.nodup_cons.mp distinct
    cases i with
    | zero =>
      cases found
      exact List.lookup_cons_self
    | succ i =>
      have later : name ∈ columns.map Prod.fst :=
        List.mem_map.mpr ⟨(name,type),List.mem_of_getElem? found,rfl⟩
      have other : (name == column.1) = false := by
        rw [beq_eq_false_iff_ne]
        rintro rfl
        exact apart later
      rw [List.lookup_cons,other]
      exact ih distinct found

end TableSchema

-- The last word of a table on the type of one of its columns, if cells can be converted to it.
def Declares (declared : List (String × String)) (name dataType : String) : Prop :=
  ∃ before after, declared = before ++ (name,dataType) :: after ∧
    (ColumnType.ofDataType? dataType).isSome ∧
      ∀ other ∈ after, other.1 = name → ColumnType.ofDataType? other.2 = none

-- A table that has a column once has one word on it.
theorem declares_of_mem {declared : List (String × String)} (distinct : (declared.map Prod.fst).Nodup)
    (member : (name,dataType) ∈ declared) (known : (ColumnType.ofDataType? dataType).isSome) :
    Declares declared name dataType := by
  obtain ⟨before,after,rfl⟩ := List.append_of_mem member
  refine ⟨before,after,rfl,known,fun other later same => ?_⟩
  rw [List.map_append,List.map_cons] at distinct
  have apart := (List.nodup_cons.mp (List.nodup_append.mp distinct).2.1).1
  exact absurd (List.mem_map.mpr ⟨other,later,same⟩) apart

theorem declaredType?_silent {declared : List (String × String)}
    (silent : ∀ other ∈ declared, other.1 = name → ColumnType.ofDataType? other.2 = none) :
    declaredType? name declared = none := by
  induction declared with
  | nil => rfl
  | cons entry declared ih =>
    have own := silent entry (by simp)
    have rest := ih fun other member => silent other (by simp [member])
    unfold declaredType?
    rw [rest,Option.none_or]
    by_cases same : name = entry.1
    · rw [if_pos same,own same.symm]
    · rw [if_neg same]

theorem Declares.type (declares : Declares declared name dataType) :
    ∃ type, ColumnType.ofDataType? dataType = some type ∧ declaredType? name declared = some type := by
  obtain ⟨before,after,rfl,known,silent⟩ := declares
  obtain ⟨type,known⟩ := Option.isSome_iff_exists.mp known
  refine ⟨type,known,?_⟩
  induction before with
  | nil =>
    rw [List.nil_append,declaredType?,declaredType?_silent silent,Option.none_or,if_pos rfl,known]
  | cons entry before ih => rw [List.cons_append,declaredType?,ih,Option.some_or]

-- A column has the type that its table's last word makes of it.
theorem TableSchema.adopt_at {schema : TableSchema} {i : Nat} (distinct : schema.columnNames.Nodup)
    (declares : Declares declared name dataType)
    (found : (schema.adopt declared).columns[i]? = some (name,type)) :
    ColumnType.ofDataType? dataType = some type := by
  obtain ⟨own,known,told⟩ := declares.type
  have typed := schema.adopt_typed declared
  have now := columnType?_at (typed.names ▸ distinct) found
  rw [typed.types,told] at now
  obtain ⟨_,_,same⟩ := Option.map_eq_some_iff.mp now
  rw [known]
  exact congrArg some same

section Loading

variable {header : TableSchema} {headers : List String}

theorem TableSchema.distinct_of_headers (read : ofHeaders headers = .ok header)
    (sample : List (List String)) : (header.observeAll sample).columnNames.Nodup := by
  obtain ⟨_,_,distinct,_⟩ := ofHeaders_ok.mp read
  rw [observeAll_names,ofHeaders_names read]
  exact distinct

theorem joined_member (between : String) (parts : α → List Part) {xs : List α} (member : x ∈ xs) :
    ∃ before after, Part.joined between parts xs = before ++ parts x ++ after := by
  obtain ⟨first,rest,rfl⟩ := List.append_of_mem member
  cases first with
  | nil => exact ⟨[],rest.flatMap fun x => .text between :: parts x,rfl⟩
  | cons y first =>
    refine ⟨parts y ++ (first.flatMap fun x => .text between :: parts x) ++ [.text between],
      rest.flatMap fun x => .text between :: parts x,?_⟩
    simp [Part.joined]

-- The statement that makes a table says each column's type.
theorem createTable_declares {schema : TableSchema} (member : column ∈ schema.columns) (table : Ident)
    (withKey : Bool) : ∃ before after, schema.createTable table withKey =
      .ofParts (before ++ TableSchema.columnParts column ++ after) := by
  obtain ⟨before,after,laid⟩ := joined_member ", " TableSchema.columnParts member
  rw [TableSchema.createTable_parts,TableSchema.createParts,laid]
  refine ⟨[.text "CREATE TABLE IF NOT EXISTS ",.text table.sql,.text " ("] ++
    TableSchema.keyParts table withKey ++ before,after ++ [.text ")"],?_⟩
  simp only [List.append_assoc]

-- What cells become is sent in the types that their columns have: in a table that was made for
-- them all of it, and in one that was there all but whole numbers that a column has no room for.
theorem converted_values_encode (read : TableSchema.ofHeaders headers = .ok header)
    (sample : List (List String)) {schema : TableSchema} (widened : header.observeAll sample = schema) :
    (∀ record line row (i : Nat) v, schema.values record line = .ok row → row[i]? = some v →
      ∃ name type server, schema.columns[i]? = some (name,type) ∧
        (∀ table withKey, ∃ before after, schema.createTable table withKey =
          .ofParts (before ++ TableSchema.columnParts (name,type) ++ after)) ∧
        typeNamed? type.sqlType = some server ∧ Encodes server v) ∧
    ∀ declared record line row (i : Nat) v name dataType,
      (schema.adopt declared).values record line = .ok row → row[i]? = some v →
      schema.columnNames[i]? = some name → Declares declared name dataType →
        ∃ server, typeNamed? dataType = some server ∧
          (Encodes server v ↔ ¬∃ n, v = .int n ∧ Overflows server n) := by
  have distinct : schema.columnNames.Nodup := widened ▸ TableSchema.distinct_of_headers read sample
  constructor
  · intro record line row i v converts converted
    obtain ⟨name,type,cell,found,read⟩ := TableSchema.valuesOf_at converts converted
    obtain ⟨server,named,fills,roomy⟩ := type.sqlType_fills
    refine ⟨name,type,server,found,createTable_declares (List.mem_of_getElem? found),named,?_⟩
    apply encodes_of_not_refused
    rw [fills.refuses_iff (ColumnType.toValue_holds read)]
    rintro ⟨n,_,overflows⟩
    exact roomy n overflows
  · intro declared record line row i v name dataType converts converted own declares
    obtain ⟨other,type,cell,found,read⟩ := TableSchema.valuesOf_at converts converted
    have same : other = name := by
      have named : (schema.adopt declared).columnNames[i]? = some other := by
        rw [TableSchema.columnNames,List.getElem?_map,found]
        rfl
      rw [schema.adopt_names,own] at named
      exact (Option.some.inj named).symm
    subst same
    obtain ⟨server,named,fills⟩ :=
      ColumnType.ofDataType_fills (TableSchema.adopt_at distinct declares found)
    have refuses := fills.refuses_iff (ColumnType.toValue_holds read)
    refine ⟨server,named,?_,?_⟩
    · intro encodes overflows
      exact encodes.not_refused (refuses.mpr overflows)
    · intro room
      exact encodes_of_not_refused fun refused => room (refuses.mp refused)

-- A number that the column of a new table takes, and one of an old table does not.
theorem converted_values_encode_narrow :
    Encodes .int8 (.int 40000) ∧ ¬Encodes .int2 (.int 40000) := by
  have read : TableSchema.ofHeaders ["id"] = .ok ⟨[("id",.unknown)]⟩ := rfl
  have widened : TableSchema.observeAll ⟨[("id",.unknown)]⟩ [["7"]] = ⟨[("id",.integer)]⟩ := by
    decide +kernel
  have converts : TableSchema.values ⟨[("id",.integer)]⟩ ["40000"] 2 = .ok [.int 40000] := rfl
  have declares : Declares [("id","smallint")] "id" "smallint" :=
    declares_of_mem (by simp) (by simp) rfl
  obtain ⟨made,taken⟩ := converted_values_encode read [["7"]] widened
  constructor
  · obtain ⟨name,type,server,found,_,named,encodes⟩ := made _ _ _ 0 _ converts rfl
    cases found
    cases named
    exact encodes
  · obtain ⟨server,named,exactly⟩ :=
      taken [("id","smallint")] ["40000"] 2 [.int 40000] 0 _ _ _ converts rfl rfl declares
    cases named
    rw [exactly]
    exact not_not_intro ⟨40000,rfl,.inl ⟨rfl,by decide⟩⟩

end Loading

end DataAccess.Load
