import DataAccess.Proofs.Load.Binding
import DataAccess.Proofs.Load.KeyColumn

-- The tables of a server, and what two loads under one name make of them. A server stores a name
-- that is not quoted as it folds it, and compares what is bound with what it has stored; so a table
-- that was made by one load is found by the next if its name is one that folding leaves as it is.
namespace DataAccess.Load
open Text (folded)

-- What a server knows of tables: the schema that is the current one, and for each table its schema, its
-- name and its columns with their types.
structure Catalog where
  current : String
  tables : List ((String × String) × List (String × String))

namespace Catalog

def place (c : Catalog) (target : Target) : String × String := (target.1.getD c.current,target.2)

def find? (c : Catalog) (target : Target) : Option (List (String × String)) :=
  c.tables.lookup (c.place target)

-- The columns of a table that is made, as they are stored.
def stored (sql : List Char) : List (String × String) :=
  (columnsMade sql).map fun column => (folded column.1,folded column.2)

-- The tables after a statement that is carried out.
def after (c : Catalog) (sent : Sent) : Catalog :=
  match Effect.of sent,target? sent.2.1.toList with
  | .drop,some target => { c with tables := c.tables.filter fun entry => entry.1 ≠ c.place target }
  | .create,some target =>
    if (c.find? target).isSome then c
    else { c with tables := (c.place target,stored sent.2.1.toList) :: c.tables }
  | _,_ => c

-- The rows that tell whether a table is there, or which columns it has.
def rows? (c : Catalog) (sent : Sent) : Option (List Row) :=
  match Effect.of sent,lookedFor? sent with
  | .look,some target =>
    some (if "SELECT EXISTS ".toList.isPrefixOf sent.2.1.toList then [[.bool (c.find? target).isSome]]
      else ((c.find? target).getD []).map fun column => [.text column.1,.text column.2])
  | _,_ => none

end Catalog

-- A server that answers what is sent to it from its tables. Whatever it refuses, it does not carry out.
inductive Serves : Catalog → List Sent → List Reply → Catalog → Prop
  | done : Serves c [] replies c
  | refuses (refusal : replies.head? = some (.failure e)) (later : Serves c sent replies.tail d) :
      Serves c (s :: sent) replies d
  | answers (taken : ∀ e, replies.head? ≠ some (.failure e))
      (truth : ∀ rows, c.rows? s = some rows → replies.head? = some (.rows rows))
      (later : Serves (c.after s) sent replies.tail d) : Serves c (s :: sent) replies d

namespace Catalog

variable {c : Catalog} {table : Ident}

theorem after_drop (wanted : Wanted) : c.after (asking (wanted,dropTable table)) =
    { c with tables := c.tables.filter fun entry => entry.1 ≠ c.place (written table) } := by
  rw [after,Effect.of_dropTable,asking,target?_dropTable]

theorem find?_drop (wanted : Wanted) :
    (c.after (asking (wanted,dropTable table))).find? (written table) = none := by
  rw [after_drop]
  refine List.lookup_eq_none_iff.mpr fun entry member => ?_
  have other : entry.1 ≠ c.place (written table) := by simpa using (List.mem_filter.mp member).2
  exact bne_iff_ne.mpr fun same => other same.symm

-- A table that is there already stays as it is.
theorem after_create (schema : TableSchema) (withKey : Bool) (wanted : Wanted) :
    c.after (asking (wanted,schema.createTable table withKey)) =
      if (c.find? (written table)).isSome then c else { c with tables :=
        (c.place (written table),stored (schema.createTable table withKey).sql.toList) :: c.tables } := by
  rw [after,Effect.of_createTable,asking,target?_createTable]

theorem find?_create (schema : TableSchema) (withKey : Bool) (wanted : Wanted) :
    (c.after (asking (wanted,schema.createTable table withKey))).find? (written table) =
      some ((c.find? (written table)).getD (stored (schema.createTable table withKey).sql.toList)) := by
  rw [after_create]
  cases there : c.find? (written table) with
  | some columns => simp [there]
  | none =>
    rw [if_neg (by simp)]
    exact List.lookup_cons_self

theorem after_other (kept : Effect.of s ≠ .drop) (unmade : Effect.of s ≠ .create) : c.after s = c := by
  unfold after
  split
  · rename_i drops _
    exact absurd drops kept
  · rename_i creates _
    exact absurd creates unmade
  · rfl

theorem after_look (looks : Effect.of s = .look) : c.after s = c :=
  after_other (by simp [looks]) (by simp [looks])

theorem rows?_other (unasked : Effect.of s ≠ .look) : c.rows? s = none := by
  unfold rows?
  split
  · rename_i looks _
    exact absurd looks unasked
  · rfl

-- The probes are told apart by how they begin.
theorem probe_begins (lead close : String) (table : Ident) : ∃ rest,
    ((((pushSchema (Statement.ofText lead) table).push " AND table_name = ").bind
      (.text table.name)).push close).sql.toList = lead.toList ++ rest := by
  obtain ⟨parts,laid⟩ := Effect.probe_parts lead close table
  rw [laid,Statement.ofParts_sql]
  exact ⟨_,rfl⟩

theorem rows?_exists (wanted : Wanted) : c.rows? (asking (wanted,tableExists table)) =
    some [[.bool (c.find? (table.schema?,table.name)).isSome]] := by
  obtain ⟨rest,text⟩ := probe_begins _ _ table
  have begins : "SELECT EXISTS ".toList.isPrefixOf (tableExists table).sql.toList = true := by
    rw [tableExists,text,String.toList_ofList,String.toList_ofList]
    rfl
  rw [rows?,Effect.of_tableExists,lookedFor?_tableExists]
  exact congrArg some (if_pos begins)

theorem rows?_columns (wanted : Wanted) : c.rows? (asking (wanted,tableColumns table)) =
    some (((c.find? (table.schema?,table.name)).getD []).map fun column =>
      [.text column.1,.text column.2]) := by
  obtain ⟨rest,text⟩ := probe_begins _ _ table
  have begins : ¬"SELECT EXISTS ".toList.isPrefixOf (tableColumns table).sql.toList = true := by
    rw [tableColumns,text,String.toList_append,String.toList_ofList,String.toList_ofList]
    exact Bool.false_ne_true
  rw [rows?,Effect.of_tableColumns,lookedFor?_tableColumns]
  exact congrArg some (if_neg begins)

-- Tables that are stored under names that were folded.
structure Folded (c : Catalog) : Prop where
  current : folded c.current = c.current
  tables : ∀ entry ∈ c.tables, folded entry.1.1 = entry.1.1 ∧ folded entry.1.2 = entry.1.2

theorem target?_folded (read : target? sql = some target) :
    (∀ schema ∈ target.1, folded schema = schema) ∧ folded target.2 = target.2 := by
  unfold target? at read
  obtain ⟨lead,_,read⟩ := Option.bind_eq_some_iff.mp read
  obtain ⟨own,_,rfl⟩ := Option.map_eq_some_iff.mp read
  refine ⟨fun schema member => ?_,Text.folded_folded own⟩
  rw [Option.mem_def] at member
  dsimp only at member
  obtain ⟨part,_,rfl⟩ := Option.map_eq_some_iff.mp member
  exact Text.folded_folded part

theorem Folded.after (folds : Folded c) (s : Sent) : Folded (c.after s) := by
  unfold Catalog.after
  split
  · exact ⟨folds.current,fun entry member => folds.tables entry (List.mem_of_mem_filter member)⟩
  · rename_i target _ read
    obtain ⟨schema,name⟩ := target?_folded read
    split
    · exact folds
    · refine ⟨folds.current,List.forall_mem_cons.mpr ⟨⟨?_,name⟩,folds.tables⟩⟩
      cases own : target.1 with
      | none => simpa [place,own] using folds.current
      | some part => simpa [place,own] using schema part own
  · exact folds

-- What is found by the name that a table was given is stored under it.
theorem Folded.written_of_found (folds : Folded c) (found : (c.find? (table.schema?,table.name)).isSome = true) :
    (table.schema?,table.name) = written table := by
  obtain ⟨columns,there⟩ := Option.isSome_iff_exists.mp found
  obtain ⟨before,rest,split,_⟩ := List.lookup_eq_some_iff.mp there
  obtain ⟨schema,name⟩ := folds.tables (c.place (table.schema?,table.name),columns) (by simp [split])
  refine Prod.ext ?_ name.symm
  cases own : table.schema? with
  | none => simp [written,own]
  | some part =>
    have same : folded part = part := by simpa [place,own] using schema
    simp [written,own,same]

end Catalog

theorem answer_failure {replies : List Reply} (refusal : replies.head? = some (.failure e)) :
    answer replies 0 = .error e ∧ found replies 0 = .error e := by
  rw [answer,found,← List.head?_eq_getElem?,refusal]
  exact ⟨rfl,rfl⟩

theorem found_rows {replies : List Reply} (answered : replies.head? = some (.rows rows)) :
    found replies 0 = .ok rows := by
  rw [found,← List.head?_eq_getElem?,answered]
  rfl

theorem declaredColumns_text (columns : List (String × String)) : declaredColumns
    (columns.map fun column => [Value.text column.1,.text column.2]) = .ok columns := by
  induction columns with
  | nil => rfl
  | cons column columns ih =>
    rw [List.map_cons,declaredColumns,ih]
    rfl

namespace Serves

variable {c d : Catalog} {table : Ident} {replies : List Reply} {sent : List Sent}

theorem folded_after (serves : Serves c sent replies d) (folds : c.Folded) : d.Folded := by
  induction serves with
  | done => exact folds
  | refuses _ _ ih => exact ih folds
  | answers _ _ _ ih => exact ih (folds.after _)

-- Only statements that drop and make tables change them.
theorem unchanged_of_others (serves : Serves c sent replies d)
    (others : ∀ s ∈ sent, Effect.of s ≠ .drop ∧ Effect.of s ≠ .create) : d = c := by
  induction serves with
  | done => rfl
  | refuses _ _ ih => exact ih fun s member => others s (by simp [member])
  | answers _ _ _ ih =>
    obtain ⟨kept,unmade⟩ := others _ List.mem_cons_self
    rw [Catalog.after_other kept unmade] at ih
    exact ih fun s member => others s (List.mem_cons_of_mem _ member)

-- A server may answer what it is asked, and carry out what it is told to.
theorem cons_rows (known : c.rows? s = some rows) (later : Serves (c.after s) sent replies d) :
    Serves c (s :: sent) (.rows rows :: replies) d := by
  refine .answers nofun (fun others same => ?_) later
  rw [known] at same
  cases same
  rfl

theorem cons_affected (unasked : Effect.of s ≠ .look) (later : Serves (c.after s) sent replies d) :
    Serves c (s :: sent) (.affected n :: replies) d :=
  .answers nofun (by simp [Catalog.rows?_other unasked]) later

-- A statement that is not refused is carried out.
theorem tail_of_granted (serves : Serves c (s :: sent) replies d) (done : answer replies 0 = .ok n) :
    Serves (c.after s) sent replies.tail d := by
  cases serves with
  | refuses refusal => simp [(answer_failure refusal).1] at done
  | answers taken truth later => exact later

-- A question that is answered is answered from the tables, which it leaves as they are.
theorem tail_of_asked (serves : Serves c (s :: sent) replies d) (look : Effect.of s = .look)
    (known : c.rows? s = some rows) (answered : found replies 0 = .ok others) :
    others = rows ∧ Serves c sent replies.tail d := by
  cases serves with
  | refuses refusal => simp [(answer_failure refusal).2] at answered
  | answers taken truth later =>
    rw [found_rows (truth rows known)] at answered
    rw [c.after_look look] at later
    exact ⟨(Except.ok.inj answered).symm,later⟩

theorem told_eq (serves : Serves c (asking (.rows,tableExists table) :: sent) replies d)
    (heard : Load.told replies = .ok there) :
    there = (c.find? (table.schema?,table.name)).isSome ∧ Serves c sent replies.tail d := by
  cases answered : found replies 0 with
  | error e =>
    rw [Load.told,answered] at heard
    cases heard
  | ok rows =>
    obtain ⟨rfl,later⟩ := serves.tail_of_asked (Effect.of_tableExists table .rows) (c.rows?_exists .rows) answered
    rw [Load.told,answered] at heard
    exact ⟨(Except.ok.inj heard).symm,later⟩

theorem described_eq (serves : Serves c (asking (.rows,tableColumns table) :: sent) replies.tail d)
    (heard : Load.described replies = .ok declared) :
    declared = (c.find? (table.schema?,table.name)).getD [] := by
  have next : found replies 1 = found replies.tail 0 := by rw [← List.drop_one,found_next]
  cases answered : found replies.tail 0 with
  | error e =>
    rw [Load.described,next,answered] at heard
    cases heard
  | ok rows =>
    obtain ⟨rfl,_⟩ := serves.tail_of_asked (Effect.of_tableColumns table .rows) (c.rows?_columns .rows) answered
    rw [Load.described,next,answered] at heard
    change declaredColumns _ = _ at heard
    rw [declaredColumns_text] at heard
    exact (Except.ok.inj heard).symm

end Serves

end DataAccess.Load
