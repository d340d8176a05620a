import DataAccess.Assignments
import DataAccess.Clause
import DataAccess.Proofs.Ident.Characters
import DataAccess.Proofs.Statement.Numbering

-- WHERE texts and SET texts, laid out in parts.
namespace DataAccess
open DataAccess.Part Statement

namespace Clause

def values (c : Clause) : List Value :=
  match c.operand with
  | .single v => [v]
  | .list vs => vs

def parts (c : Clause) : List Part :=
  [.text c.column.sql,.text " ",.text c.op.sql] ++
    match c.operand with
    | .single v => [.text " ",.value v]
    | .list vs => .text " (" :: joined ", " (fun v => [.value v]) vs ++ [.text ")"]

theorem appendTo_add (c : Clause) (s : Statement) : c.appendTo s = s.add c.parts := by
  unfold appendTo parts
  cases c.operand with
  | single v => simp only [pushIdent_add,push_add,bind_add,add_add,List.append_assoc]; rfl
  | list vs => simp only [pushIdent_add,push_add,bindList_add,add_add,List.append_assoc]; rfl

theorem values_parts (c : Clause) : Part.values c.parts = c.values := by
  unfold parts Clause.values
  cases c.operand with
  | single v => rfl
  | list vs => simp [values_append,values_joined,Part.values]

theorem parts_legible (c : Clause) : Legible false c.parts := by
  have op : '$' ∉ c.op.sql.toList := by cases c.op <;> decide
  have column := c.column.sql_plain
  unfold parts
  cases c.operand with
  | single v => simp [Legible,column,op]
  | list vs =>
    have listed : Legible false (joined ", " (fun v => [.value v]) vs) :=
      legible_joined (by decide) fun v _ => trivial
    have closed : Legible true [.text ")"] := by simp [Legible]
    simpa [Legible,column,op] using listed.append closed

end Clause

-- The comparisons of a WHERE text, one for each clause.
def whereParts : List Clause → List Part
  | [] => []
  | c :: cs => .text " WHERE " :: joined " AND " Clause.parts (c :: cs)

theorem Statement.pushWhere_add (s : Statement) (cs : List Clause) :
    s.pushWhere cs = s.add (whereParts cs) := by
  cases cs with
  | nil => rfl
  | cons c cs =>
    have next : ∀ (s : Statement) (c : Clause),
        c.appendTo (s.push " AND ") = s.add (.text " AND " :: c.parts) := fun s c => by
      rw [c.appendTo_add,push_add,add_add]; rfl
    rw [pushWhere,c.appendTo_add,joined_add " AND " Clause.parts _ next,push_add,add_add]; rfl

theorem values_whereParts (cs : List Clause) : values (whereParts cs) = cs.flatMap Clause.values := by
  cases cs with
  | nil => rfl
  | cons c cs => simp only [whereParts,values,values_joined,Clause.values_parts]

theorem whereParts_legible (cs : List Clause) : Legible true (whereParts cs) := by
  cases cs with
  | nil => trivial
  | cons c cs =>
    have clauses : Legible false (joined " AND " Clause.parts (c :: cs)) :=
      legible_joined (by decide) fun c _ => c.parts_legible
    exact Separates.legible (by decide) clauses true

namespace Assignments

def assignment (a : Ident × Value) : List Part := [.text a.1.sql,.text " = ",.value a.2]

def parts : Assignments → List Part
  | [] => []
  | a :: rest => .text " SET " :: joined ", " assignment (a :: rest)

theorem appendTo_add (s : Statement) (as : Assignments) : as.appendTo s = s.add as.parts := by
  cases as with
  | nil => rfl
  | cons a rest =>
    have next : ∀ (s : Statement) (a : Ident × Value),
        ((s.push ", ").pushIdent a.1 |>.push " = ").bind a.2 =
          s.add (.text ", " :: assignment a) := fun s a => by
      rw [pushIdent_push]; rfl
    rw [appendTo,pushIdent_push]
    exact joined_add ", " assignment _ next (s.push " SET ") a rest

theorem values_parts (as : Assignments) : values as.parts = as.map Prod.snd := by
  cases as with
  | nil => rfl
  | cons a rest =>
    simp only [parts,values,values_joined,assignment]
    exact List.map_eq_flatMap.symm

theorem parts_legible (as : Assignments) : Legible true as.parts := by
  cases as with
  | nil => trivial
  | cons a rest =>
    have assigned : Legible false (joined ", " assignment (a :: rest)) :=
      legible_joined (by decide) fun a _ => by simp [assignment,Legible,a.1.sql_plain]
    exact Separates.legible (by decide) assigned true

end Assignments

end DataAccess
