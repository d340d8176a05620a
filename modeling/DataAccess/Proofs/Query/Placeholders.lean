import DataAccess.Proofs.Load.TableStatements
import DataAccess.Proofs.Query.Chains
import DataAccess.Proofs.Query.Layout

-- Every statement that is made refers to the values given to its builder: the placeholders of its
-- text are the numbers from one on, and the values stand in the order of the text.
namespace DataAccess.Query
open DataAccess.Part Failure
open Statement (ofParts binds_of_legible)

-- Whatever stands around it, a WHERE text adds the values of the conditions to those before it.
theorem binds_around {head tail : List Part} (headed : Legible false head)
    (tailed : Legible true tail) {conditions : List Condition}
    (accepted : ∀ c ∈ conditions, c.fault? = none) :
    (ofParts (head ++ whereParts (conditions.flatMap Condition.clauses) ++ tail)).Binds
      (values head ++ conditions.flatMap Condition.values ++ values tail) := by
  have filtered := (Condition.clauses_of_accepted accepted).2
  have bound := binds_of_legible ((headed.append
    (whereParts_legible (conditions.flatMap Condition.clauses))).append tailed)
  rwa [values_append,values_append,values_whereParts,filtered] at bound

theorem identParts_legible (is : List Ident) : Legible false (joined ", " identParts is) :=
  legible_joined (by decide) fun i _ => by simp [identParts,Legible,i.sql_plain]

theorem number_plain (n : Nat) : '$' ∉ Nat.toDigits 10 n := fun member =>
  absurd (Nat.isDigit_of_mem_toDigits (by decide) (by decide) member) (by decide)

namespace Select

theorem head_legible (columns : List Ident) (table : Ident) : Legible false (head columns table) := by
  have closed : Legible true [.text " FROM ",.text table.sql] := by
    simp [Legible,table.sql_plain]
  simpa [head,Legible] using (identParts_legible columns).append closed

theorem countParts_legible {keyword : String} (separates : Separates keyword) (n : Option UInt64) :
    Legible true (countParts keyword n) := by
  cases n with
  | none => trivial
  | some n => exact separates.legible (by simp [Legible,number_plain]) true

theorem tail_legible (q : Select) : Legible true q.tail := by
  have ordered : Legible true (orderParts q.order) := by
    cases q.order with
    | none => trivial
    | some key =>
      have direction : '$' ∉ key.2.sql.toList := by cases key.2 <;> decide
      simp [orderParts,Legible,key.1.sql_plain,direction]
  exact ordered.append
    ((countParts_legible (by decide) q.limit).append (countParts_legible (by decide) q.offset))

end Select

namespace Delete

theorem head_legible (q : Delete) (table : Ident) : Legible false (q.head table) := by
  unfold head
  cases q.limit <;> simp [Legible,table.sql_plain]

theorem tail_legible (q : Delete) : Legible true q.tail := by
  unfold tail
  cases q.limit with
  | none => trivial
  | some n => simp [Legible,number_plain]

end Delete

namespace Insert

theorem rowParts_legible (row : Row) : Legible false (rowParts row) := by
  have listed : Legible false (joined ", " (fun v => [.value v]) row) :=
    legible_joined (by decide) fun v _ => trivial
  have closed : Legible true [.text ")"] := by simp [Legible]
  simpa [rowParts,Legible] using listed.append closed

theorem parts_legible (table : Ident) (columns : List Ident) (rows : List Row) :
    Legible false (parts table columns rows) := by
  have filled : Legible true (.text ") VALUES " :: joined ", " rowParts rows) :=
    Separates.legible (by decide)
      (legible_joined (by decide) fun row _ => rowParts_legible row) true
  have listed := (identParts_legible columns).append filled
  simpa [parts,Legible,table.sql_plain] using listed

theorem values_rowParts (row : Row) : Part.values (rowParts row) = row := by
  simp [rowParts,Part.values,values_append,values_joined]

theorem values_parts (table : Ident) (columns : List Ident) (rows : List Row) :
    Part.values (parts table columns rows) = rows.flatten := by
  simp [parts,identParts,Part.values,values_append,values_joined,values_rowParts,List.flatMap_id']

end Insert

-- A statement that is made, with the values that were given for it in the order of its text:
-- what is set, what the conditions compare with, the rows that are inserted. The preparation of
-- a table has only the names it asks for.
inductive Made : Statement → List Value → Prop where
  | select (built : (Select.ofCalls shape calls).build = .ok s) :
      Made s ((calls.flatMap Select.Call.conditions).flatMap Condition.values)
  | count (built : (Select.ofCalls shape calls).buildCount = .ok s) :
      Made s ((calls.flatMap Select.Call.conditions).flatMap Condition.values)
  | update (built : (Update.ofCalls table calls).build = .ok s) :
      Made s ((Update.assigned (calls.flatMap Update.Call.entries)).map Prod.snd ++
        (calls.flatMap Update.Call.conditions).flatMap Condition.values)
  | delete (built : (Delete.ofCalls table calls).build confirmed = .ok s) :
      Made s ((calls.flatMap Delete.Call.conditions).flatMap Condition.values)
  | insert (built : (Insert.ofCalls table calls).build = .ok s) :
      Made s (calls.flatMap Insert.Call.rows).flatten
  | createTable (inferred : Load.TableSchema.Inferred schema) (table : Ident) (withKey : Bool) :
      Made (schema.createTable table withKey) []
  | dropTable (table : Ident) : Made (Load.dropTable table) []
  | tableExists (table : Ident) : Made (Load.tableExists table) (Load.probed table)
  | tableColumns (table : Ident) : Made (Load.tableColumns table) (Load.probed table)

theorem Made.binds (made : Made s vs) : s.Binds vs := by
  cases made with
  | @select shape calls s built =>
    obtain ⟨accepted,columns,table,_,_,rfl⟩ := Select.build_ok.mp built
    rw [Select.ofCalls_rejected] at accepted
    have bound := binds_around (Select.head_legible columns table)
      (Select.tail_legible (Select.ofCalls shape calls))
      (Condition.accepted_of_calls Select.Call.conditions_fault accepted)
    rwa [Select.values_head,Select.values_tail,List.nil_append,List.append_nil,
      ← Select.ofCalls_conditions shape] at bound
  | @count shape calls s built =>
    obtain ⟨accepted,table,_,rfl⟩ := Select.buildCount_ok.mp built
    rw [Select.ofCalls_rejected] at accepted
    have headed : Legible false (Select.countHead table) := by
      simp [Select.countHead,Legible,table.sql_plain]
    have bound := binds_around headed (show Legible true [] from trivial)
      (Condition.accepted_of_calls Select.Call.conditions_fault accepted)
    simpa [Select.countHead,values,Select.ofCalls_conditions] using bound
  | @update table calls s built =>
    obtain ⟨name,_,accepted,_,rfl⟩ := Update.build_ok.mp built
    rw [Update.ofCalls_rejected] at accepted
    have headed : Legible false (Update.head name (Update.ofCalls table calls).assignments) := by
      simpa [Update.head,Legible,name.sql_plain] using
        (Update.ofCalls table calls).assignments.parts_legible.weaken false
    have bound := binds_around headed (show Legible true [] from trivial)
      (Condition.accepted_of_calls Update.Call.conditions_fault accepted)
    simpa [Update.head,values,values_append,Assignments.values_parts,Update.ofCalls_conditions,
      Update.ofCalls_assignments] using bound
  | @delete table calls confirmed s built =>
    obtain ⟨name,_,accepted,_,rfl⟩ := Delete.build_ok.mp built
    rw [Delete.ofCalls_rejected] at accepted
    have bound := binds_around (Delete.head_legible (Delete.ofCalls table calls) name)
      (Delete.tail_legible (Delete.ofCalls table calls))
      (Condition.accepted_of_calls Delete.Call.conditions_fault accepted)
    rwa [Delete.values_head,Delete.values_tail,List.nil_append,List.append_nil,
      ← Delete.ofCalls_conditions table] at bound
  | @insert table calls s built =>
    obtain ⟨name,_,accepted,_,_,_,rfl⟩ := Insert.build_ok.mp built
    have bound := binds_of_legible (Insert.parts_legible name (Insert.ofCalls table calls).columns
      (Insert.ofCalls table calls).rows.toList)
    rw [Insert.values_parts] at bound
    rwa [← Insert.ofCalls_rows table calls accepted]
  | createTable inferred table withKey => exact Load.TableSchema.createTable_binds inferred table withKey
  | dropTable table => exact Load.dropTable_binds table
  | tableExists table => exact Load.tableExists_binds table
  | tableColumns table => exact Load.tableColumns_binds table

-- A condition that was asked for before a value was set.
theorem update_of_list_binds : ∃ s, (Update.ofCalls "users"
    [.filter (.among "id" .isIn [.int 7,.int 8]),.set "name" (.text "a")]).build = .ok s ∧
      s.Binds [.text "a",.int 7,.int 8] := by
  obtain ⟨s,built⟩ : ∃ s, (Update.ofCalls "users"
    [.filter (.among "id" .isIn [.int 7,.int 8]),.set "name" (.text "a")]).build = .ok s := ⟨_,rfl⟩
  exact ⟨s,built,(Made.update built).binds⟩

end DataAccess.Query
