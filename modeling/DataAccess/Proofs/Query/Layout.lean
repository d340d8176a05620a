import DataAccess.Proofs.Failure
import DataAccess.Proofs.Query.Comparisons
import DataAccess.Query.Delete
import DataAccess.Query.Insert
import DataAccess.Query.Select
import DataAccess.Query.Update

-- The statements of the builders, laid out in parts: what stands before the WHERE text, the WHERE
-- text itself, and what stands after it. A builder makes just these parts, and it does so exactly
-- when nothing was rejected and what its statement needs is there.
namespace DataAccess.Query
open DataAccess.Part Failure
open Statement (ofParts ofText ofText_parts ofParts_add add_add push_add pushIdent_add pushIdents_add
  pushWhere_add bindList_add joined_add)

def identParts (i : Ident) : List Part := [.text i.sql]

theorem values_identParts (is : List Ident) : values (joined ", " identParts is) = [] := by
  simp [values_joined,identParts,values]

theorem Rejection.check_ok {rejected : Rejection} : rejected.check = .ok u ↔ rejected = none := by
  cases rejected <;> simp [check]

namespace Select

def orderParts : Option (Ident × Order) → List Part
  | none => []
  | some (column,order) => [.text " ORDER BY ",.text column.sql,.text " ",.text order.sql]

def countParts (keyword : String) : Option UInt64 → List Part
  | none => []
  | some n => [.text keyword,.text (toString n.toNat)]

def head (columns : List Ident) (table : Ident) : List Part :=
  .text "SELECT " :: joined ", " identParts columns ++ [.text " FROM ",.text table.sql]

def countHead (table : Ident) : List Part := [.text "SELECT COUNT(*) FROM ",.text table.sql]

def tail (q : Select) : List Part :=
  orderParts q.order ++ (countParts " LIMIT " q.limit ++ countParts " OFFSET " q.offset)

theorem values_head (columns : List Ident) (table : Ident) : values (head columns table) = [] := by
  simp [head,values,values_append,values_identParts]

theorem values_tail (q : Select) : values q.tail = [] := by
  unfold tail
  cases q.order <;> cases q.limit <;> cases q.offset <;> rfl

theorem pushOrder_add (s : Statement) (order : Option (Ident × Order)) :
    pushOrder s order = s.add (orderParts order) := by
  cases order with
  | none => rfl
  | some key => rw [pushOrder,pushIdent_add]; rfl

theorem pushCount_add (s : Statement) (keyword : String) (n : Option UInt64) :
    pushCount s keyword n = s.add (countParts keyword n) := by
  cases n <;> rfl

theorem build_ok {q : Select} : q.build = .ok s ↔ q.rejected = none ∧ ∃ columns table,
    q.projection = .ok columns ∧ q.source = .ok table ∧
      s = ofParts (head columns table ++ whereParts q.conditions ++ q.tail) := by
  have laid : ∀ columns table, ofParts (head columns table ++ whereParts q.conditions ++ q.tail) =
      pushCount (pushCount (pushOrder (((((ofText "SELECT ").pushIdents columns).push
        " FROM ").pushIdent table).pushWhere q.conditions) q.order) " LIMIT " q.limit) " OFFSET "
          q.offset := by
    intro columns table
    simp only [pushOrder_add,pushCount_add,pushWhere_add,push_add,pushIdent_add,pushIdents_add,
      ofText_parts,ofParts_add,head,tail,List.append_assoc,List.cons_append,List.nil_append]
    rfl
  simp only [build,bind_eq_ok,Rejection.check_ok,laid,Except.ok.injEq]
  constructor
  · rintro ⟨_,accepted,columns,projected,table,read,rfl⟩
    exact ⟨accepted,columns,table,projected,read,rfl⟩
  · rintro ⟨accepted,columns,table,projected,read,rfl⟩
    exact ⟨(),accepted,columns,projected,table,read,rfl⟩

theorem buildCount_ok {q : Select} : q.buildCount = .ok s ↔ q.rejected = none ∧ ∃ table,
    q.source = .ok table ∧ s = ofParts (countHead table ++ whereParts q.conditions) := by
  have laid : ∀ table, ofParts (countHead table ++ whereParts q.conditions) =
      ((ofText "SELECT COUNT(*) FROM ").pushIdent table).pushWhere q.conditions := by
    intro table
    simp only [pushWhere_add,pushIdent_add,ofText_parts,ofParts_add,countHead,List.cons_append,
      List.nil_append]
  simp only [buildCount,bind_eq_ok,Rejection.check_ok,laid,Except.ok.injEq]
  constructor
  · rintro ⟨_,accepted,table,read,rfl⟩
    exact ⟨accepted,table,read,rfl⟩
  · rintro ⟨accepted,table,read,rfl⟩
    exact ⟨(),accepted,table,read,rfl⟩

end Select

namespace Update

def head (table : Ident) (assignments : Assignments) : List Part :=
  [.text "UPDATE ",.text table.sql] ++ assignments.parts

theorem build_ok {q : Update} : q.build = .ok s ↔ ∃ table, q.table = .ok table ∧
    q.rejected = none ∧ q.assignments ≠ [] ∧
      s = ofParts (head table q.assignments ++ whereParts q.conditions) := by
  have laid : ∀ table, ofParts (head table q.assignments ++ whereParts q.conditions) =
      (q.assignments.appendTo ((ofText "UPDATE ").pushIdent table)).pushWhere q.conditions := by
    intro table
    simp only [pushWhere_add,Assignments.appendTo_add,pushIdent_add,ofText_parts,ofParts_add,head,
      List.cons_append,List.nil_append]
  simp only [build,bind_eq_ok,Rejection.check_ok,laid]
  constructor
  · rintro ⟨table,read,_,accepted,built⟩
    cases set : q.assignments with
    | nil => simp [set] at built
    | cons a rest => exact ⟨table,read,accepted,by simp,by simpa [set,eq_comm] using built⟩
  · rintro ⟨table,read,accepted,set,rfl⟩
    exact ⟨table,read,(),accepted,by simp [set]⟩

end Update

namespace Delete

-- A limited DELETE picks its rows in a subquery, which is where the WHERE text stands then.
def head (q : Delete) (table : Ident) : List Part :=
  [.text "DELETE FROM ",.text table.sql] ++
    match q.limit with
    | none => []
    | some _ => [.text " WHERE ctid IN (SELECT ctid FROM ",.text table.sql]

def tail (q : Delete) : List Part :=
  match q.limit with
  | none => []
  | some n => [.text " LIMIT ",.text (toString n.toNat),.text ")"]

theorem values_head (q : Delete) (table : Ident) : values (q.head table) = [] := by
  unfold head
  cases q.limit <;> rfl

theorem values_tail (q : Delete) : values q.tail = [] := by
  unfold tail
  cases q.limit <;> rfl

-- What is made once nothing stands against it.
def statement (q : Delete) (table : Ident) : Statement :=
  let s := (ofText "DELETE FROM ").pushIdent table
  match q.limit with
  | none => s.pushWhere q.conditions
  | some n =>
    let s := ((s.push " WHERE ctid IN (SELECT ctid FROM ").pushIdent table).pushWhere q.conditions
    ((s.push " LIMIT ").push (toString n.toNat)).push ")"

theorem statement_parts (q : Delete) (table : Ident) :
    statement q table = ofParts (q.head table ++ whereParts q.conditions ++ q.tail) := by
  unfold statement head tail
  cases q.limit with
  | none =>
    simp only [pushWhere_add,pushIdent_add,ofText_parts,ofParts_add,List.append_assoc,List.append_nil]
    rfl
  | some n =>
    simp only [pushWhere_add,push_add,pushIdent_add,ofText_parts,ofParts_add,List.append_assoc]
    rfl

theorem build_statement (q : Delete) (confirmed : Bool) : q.build confirmed =
    (q.table >>= fun table => q.rejected.check >>= fun _ =>
      if !q.hasWhere && !confirmed then .error (.validation (.unconfirmedDelete table.sql))
      else .ok (statement q table)) := by
  unfold build statement
  cases q.limit <;> rfl

theorem build_ok {q : Delete} : q.build confirmed = .ok s ↔ ∃ table, q.table = .ok table ∧
    q.rejected = none ∧ (q.conditions ≠ [] ∨ confirmed = true) ∧
      s = ofParts (q.head table ++ whereParts q.conditions ++ q.tail) := by
  have guarded : (!q.hasWhere && !confirmed) ≠ true ↔ q.conditions ≠ [] ∨ confirmed = true := by
    cases confirmed <;> simp [hasWhere]
  simp only [build_statement,bind_eq_ok,Rejection.check_ok,statement_parts]
  constructor
  · rintro ⟨table,read,_,accepted,built⟩
    split at built
    · cases built
    · rename_i allowed
      cases built
      exact ⟨table,read,accepted,guarded.mp allowed,rfl⟩
  · rintro ⟨table,read,accepted,allowed,rfl⟩
    exact ⟨table,read,(),accepted,by rw [if_neg (guarded.mpr allowed)]⟩

end Delete

namespace Insert

def rowParts (row : Row) : List Part :=
  .text "(" :: joined ", " (fun v => [.value v]) row ++ [.text ")"]

def parts (table : Ident) (columns : List Ident) (rows : List Row) : List Part :=
  [.text "INSERT INTO ",.text table.sql,.text " ("] ++ joined ", " identParts columns ++
    .text ") VALUES " :: joined ", " rowParts rows

theorem pushRow_add (s : Statement) (row : Row) : pushRow s row = s.add (rowParts row) := by
  simp only [pushRow,push_add,bindList_add,add_add]; rfl

theorem pushRows_add (s : Statement) (rows : List Row) :
    pushRows s rows = s.add (joined ", " rowParts rows) := by
  cases rows with
  | nil => rfl
  | cons row rows =>
    have next : ∀ (s : Statement) (row : Row),
        pushRow (s.push ", ") row = s.add (.text ", " :: rowParts row) := fun s row => by
      rw [pushRow_add,push_add,add_add]; rfl
    rw [pushRows,pushRow_add,joined_add ", " rowParts _ next]

theorem build_ok {q : Insert} : q.build = .ok s ↔ ∃ table, q.table = .ok table ∧
    q.rejected = none ∧ q.columns ≠ [] ∧ q.rows ≠ #[] ∧
      q.rows.size * q.columns.length ≤ maxParameters ∧
        s = ofParts (parts table q.columns q.rows.toList) := by
  have laid : ∀ table, ofParts (parts table q.columns q.rows.toList) =
      pushRows (((((ofText "INSERT INTO ").pushIdent table).push " (").pushIdents q.columns).push
        ") VALUES ") q.rows.toList := by
    intro table
    simp only [pushRows_add,push_add,pushIdent_add,pushIdents_add,ofText_parts,ofParts_add,parts,
      List.append_assoc,List.cons_append,List.nil_append]
    rfl
  simp only [build,bind_eq_ok,Rejection.check_ok,laid,List.isEmpty_iff,Array.isEmpty_iff]
  constructor
  · rintro ⟨table,read,_,accepted,built⟩
    split at built
    · cases built
    · rename_i listed
      split at built
      · cases built
      · rename_i filled
        split at built
        · cases built
        · rename_i within
          cases built
          exact ⟨table,read,accepted,listed,filled,by omega,rfl⟩
  · rintro ⟨table,read,accepted,listed,filled,within,rfl⟩
    exact ⟨table,read,(),accepted,by rw [if_neg listed,if_neg filled,if_neg (by omega)]⟩

end Insert

end DataAccess.Query
