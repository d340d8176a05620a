import DataAccess.Load.Loader
import DataAccess.Proofs.Ident.Spelling
import DataAccess.Proofs.Query.Placeholders

-- The statement that inserts a chunk of records: one row of converted values for each, in their
-- order. Where the records convert, it is always made.
namespace DataAccess

namespace Query.Insert

theorem records_fit {q : Insert} {rows : List Row}
    (fits : ∀ row ∈ rows, row.length = q.columns.length) :
    q.records rows = { q with rows := q.rows ++ rows.toArray } := by
  change rows.foldl values q = _
  induction rows generalizing q with
  | nil => simp
  | cons row rows ih =>
    have own : q.values row = { q with rows := q.rows.push row } := by
      rw [values,if_neg (not_not_intro (fits row (by simp)))]
    have further := ih (q := { q with rows := q.rows.push row }) fun r member => fits r (by simp [member])
    rw [List.foldl_cons,own,further]
    simp

theorem columnList_named (table : Ident) (columns : List Ident) :
    (ofTable table.sql).columnList (columns.map Ident.sql) = ⟨.ok table,columns,#[],none⟩ := by
  rw [columnList,Ident.parseAll_ok.mpr rfl,ofTable,Ident.parse_sql]

-- Rows for columns that can be named, few enough of them, are inserted by one statement.
theorem build_listed (table : Ident) {columns : List Ident} {rows : List Row} (listed : columns ≠ [])
    (filled : rows ≠ []) (fits : ∀ row ∈ rows, row.length = columns.length)
    (within : rows.length * columns.length ≤ maxParameters) :
    (((ofTable table.sql).columnList (columns.map Ident.sql)).records rows).build =
      .ok (Statement.ofParts (parts table columns rows)) := by
  rw [columnList_named,records_fit fits,Array.empty_append]
  exact build_ok.mpr ⟨table,rfl,rfl,listed,by simpa using filled,by simpa using within,by simp⟩

end Query.Insert

namespace Load
open Query

def converted (schema : TableSchema) (record : Csv.Record) : Except Error Row :=
  schema.values record.fields record.line

def Converts (schema : TableSchema) (record : Csv.Record) : Prop :=
  ∃ row, converted schema record = .ok row

theorem chunkValues_ok {schema : TableSchema} {chunk : List Csv.Record} {rows : List Row}
    (read : chunkValues schema chunk = .ok rows) : chunk.map (converted schema) = rows.map .ok := by
  induction chunk generalizing rows with
  | nil =>
    cases read
    rfl
  | cons record chunk ih =>
    unfold chunkValues at read
    split at read
    · cases read
    · rename_i row own
      split at read
      · cases read
      · rename_i rest further
        cases read
        rw [List.map_cons,List.map_cons,ih further,converted,own]

theorem chunkValues_cons_error {schema : TableSchema} {record : Csv.Record}
    {chunk : List Csv.Record} : chunkValues schema (record :: chunk) = .error e ↔
      converted schema record = .error e ∨
        Converts schema record ∧ chunkValues schema chunk = .error e := by
  rw [chunkValues,Converts,converted]
  cases schema.values record.fields record.line with
  | error fault => simp
  | ok row => cases chunkValues schema chunk <;> simp

-- A chunk fails as the first of its records does that does not convert.
theorem chunkValues_error {schema : TableSchema} {chunk : List Csv.Record} :
    chunkValues schema chunk = .error e ↔ ∃ (j : Nat) (record : Csv.Record),
      chunk[j]? = some record ∧ converted schema record = .error e ∧
        ∀ r ∈ chunk.take j, Converts schema r := by
  induction chunk with
  | nil => simp [chunkValues]
  | cons record chunk ih =>
    rw [chunkValues_cons_error,ih]
    constructor
    · rintro (failed | ⟨own,j,last,at_j,failed,before⟩)
      · exact ⟨0,record,rfl,failed,by simp⟩
      · refine ⟨j + 1,last,at_j,failed,fun r member => ?_⟩
        rw [List.take_succ_cons] at member
        rcases List.mem_cons.mp member with rfl | later
        · exact own
        · exact before r later
    · rintro ⟨j,last,at_j,failed,before⟩
      cases j with
      | zero =>
        cases at_j
        exact .inl failed
      | succ j =>
        exact .inr ⟨before record (by simp),j,last,at_j,failed,fun r member => before r (by simp [member])⟩

theorem valuesOf_length {columns : List (String × ColumnType)} {cells : List String} {row : Row}
    (even : cells.length = columns.length) (read : TableSchema.valuesOf line columns cells = .ok row) :
    row.length = columns.length := by
  induction columns generalizing cells row with
  | nil =>
    unfold TableSchema.valuesOf at read
    cases read
    rfl
  | cons column columns ih =>
    obtain ⟨name,type⟩ := column
    cases cells with
    | nil => cases even
    | cons cell cells =>
      unfold TableSchema.valuesOf at read
      split at read
      · cases read
      · split at read
        · cases read
        · rename_i rest further
          cases read
          exact congrArg (· + 1) (ih (Nat.succ.inj even) further)

-- What converts is as wide as the columns, if the records are.
theorem chunkValues_fit {schema : TableSchema} {records : List Csv.Record} {rows : List Row}
    (even : ∀ r ∈ records, r.fields.length = schema.columns.length)
    (read : chunkValues schema records = .ok rows) :
    ∀ row ∈ rows, row.length = schema.columns.length := by
  intro row member
  have inside : Except.ok row ∈ records.map (converted schema) := by
    rw [chunkValues_ok read]
    exact List.mem_map_of_mem member
  obtain ⟨r,from_r,own⟩ := List.mem_map.mp inside
  exact valuesOf_length (even r from_r) own

-- Columns that can be filled, so many records at a time.
structure Fillable (schema : TableSchema) (size : Nat) : Prop where
  named : ∀ name ∈ schema.columnNames, IsName name
  some : schema.columns ≠ []
  within : size * schema.columns.length ≤ maxParameters

-- The statement that inserts these records.
def Inserts (schema : TableSchema) (table : Ident) (records : List Csv.Record) (s : Statement) : Prop :=
  ∃ columns rows, columns.map Ident.sql = schema.columnNames ∧
    records.map (converted schema) = rows.map .ok ∧
      s = Statement.ofParts (Insert.parts table columns rows) ∧ s.params.toList = rows.flatten

theorem Inserts.converts {schema : TableSchema} {records : List Csv.Record}
    (inserts : Inserts schema table records s) : ∀ r ∈ records, Converts schema r := by
  obtain ⟨_,rows,_,all,_⟩ := inserts
  intro r member
  have inside : converted schema r ∈ rows.map Except.ok := by
    rw [← all]
    exact List.mem_map_of_mem member
  obtain ⟨row,_,same⟩ := List.mem_map.mp inside
  exact ⟨row,same.symm⟩

theorem insertStatement_inserts {schema : TableSchema} {records : List Csv.Record} {rows : List Row}
    (fillable : Fillable schema size) (table : Ident) (some : records ≠ [])
    (full : records.length ≤ size)
    (even : ∀ r ∈ records, r.fields.length = schema.columns.length)
    (read : chunkValues schema records = .ok rows) :
    ∃ s, insertStatement table schema.columnNames rows = .ok s ∧ Inserts schema table records s := by
  obtain ⟨columns,parsed⟩ := Ident.parseAll_named fun name member =>
    ⟨_,Ident.sql_parse (Ident.parse_name (fillable.named name member))⟩
  have spelled := Ident.parseAll_ok.mp parsed
  have all := chunkValues_ok read
  have counted : columns.length = schema.columns.length := by
    simpa [TableSchema.columnNames] using congrArg List.length spelled
  have number : rows.length = records.length := by
    simpa using (congrArg List.length all).symm
  have fits : ∀ row ∈ rows, row.length = columns.length := by
    rw [counted]
    exact chunkValues_fit even read
  have listed : columns ≠ [] := by
    rintro rfl
    exact fillable.some (List.length_eq_zero_iff.mp counted.symm)
  have filled : rows ≠ [] := by
    rintro rfl
    exact some (List.length_eq_zero_iff.mp number.symm)
  have within : rows.length * columns.length ≤ maxParameters := by
    rw [number,counted]
    exact Nat.le_trans (Nat.mul_le_mul_right _ full) fillable.within
  refine ⟨Statement.ofParts (Insert.parts table columns rows),?_,columns,rows,spelled,all,rfl,?_⟩
  · rw [insertStatement,← spelled]
    exact Insert.build_listed table listed filled fits within
  · rw [Statement.ofParts_params,Insert.values_parts]

end Load

end DataAccess
