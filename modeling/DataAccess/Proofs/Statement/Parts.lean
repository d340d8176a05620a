import DataAccess.Statement

-- Statements as they are laid out: texts, and places where a value is bound. Whatever is appended
-- to a statement is a list of such parts, and the parts alone decide what text and which values it
-- gains.
namespace DataAccess

inductive Part where
  | text (s : String)
  | value (v : Value)
  deriving DecidableEq

namespace Part

def values : List Part → List Value
  | [] => []
  | text _ :: rest => values rest
  | value v :: rest => v :: values rest

-- The characters of parts that stand after so many values.
def write (bound : Nat) : List Part → List Char
  | [] => []
  | text s :: rest => s.toList ++ write bound rest
  | value _ :: rest => (Statement.placeholder (bound + 1)).toList ++ write (bound + 1) rest

-- Parts of several things with a text between each two.
def joined (between : String) (parts : α → List Part) : List α → List Part
  | [] => []
  | x :: xs => parts x ++ xs.flatMap fun x => text between :: parts x

theorem values_append (first second : List Part) :
    values (first ++ second) = values first ++ values second := by
  induction first with
  | nil => rfl
  | cons part rest ih => cases part <;> simp [values,ih]

theorem values_flatMap (parts : α → List Part) (xs : List α) :
    values (xs.flatMap parts) = xs.flatMap fun x => values (parts x) := by
  induction xs with
  | nil => rfl
  | cons x xs ih => simp only [List.flatMap_cons,values_append,ih]

theorem values_joined (between : String) (parts : α → List Part) (xs : List α) :
    values (joined between parts xs) = xs.flatMap fun x => values (parts x) := by
  cases xs with
  | nil => rfl
  | cons x xs => simp only [joined,values_append,values_flatMap,values,List.flatMap_cons]

theorem write_append (bound : Nat) (first second : List Part) :
    write bound (first ++ second) =
      write bound first ++ write (bound + (values first).length) second := by
  induction first generalizing bound with
  | nil => rfl
  | cons part rest ih =>
    cases part with
    | text s => simp only [List.cons_append,write,values,ih,List.append_assoc]
    | value v =>
      simp only [List.cons_append,write,values,ih,List.append_assoc,List.length_cons]
      rw [Nat.add_assoc,Nat.add_comm 1]

-- Parts without values in a row are their texts in a row.
theorem write_plain (between : String) {parts : α → List Part} (plain : ∀ x, values (parts x) = [])
    (bound : Nat) (xs : List α) : write bound (joined between parts xs) =
      List.intercalate between.toList (xs.map fun x => write bound (parts x)) := by
  induction xs with
  | nil => rfl
  | cons x xs ih =>
    cases xs with
    | nil => simp [joined]
    | cons y xs =>
      rw [List.map_cons] at ih
      rw [List.map_cons,List.map_cons,List.intercalate_cons_cons,← ih]
      simp [joined,write_append,write,plain]

end Part

namespace Statement
open DataAccess.Part

def addPart (s : Statement) : Part → Statement
  | .text t => s.push t
  | .value v => s.bind v

def add (s : Statement) (parts : List Part) : Statement := parts.foldl addPart s

-- A statement that is nothing but these parts.
def ofParts (parts : List Part) : Statement := add ⟨"",#[]⟩ parts

@[simp] theorem add_nil (s : Statement) : s.add [] = s := rfl

theorem add_add (s : Statement) (first second : List Part) :
    (s.add first).add second = s.add (first ++ second) := by
  simp only [add,List.foldl_append]

theorem push_add (s : Statement) (t : String) : s.push t = s.add [.text t] := rfl

theorem bind_add (s : Statement) (v : Value) : s.bind v = s.add [.value v] := rfl

theorem pushIdent_add (s : Statement) (i : Ident) : s.pushIdent i = s.add [.text i.sql] :=
  pushIdent_push s i

theorem ofText_parts (t : String) : ofText t = ofParts [.text t] := by
  simp only [ofText,ofParts,add,List.foldl_cons,List.foldl_nil,addPart,push,String.empty_append]

theorem ofParts_add (first second : List Part) :
    (ofParts first).add second = ofParts (first ++ second) := add_add _ _ _

theorem foldl_add (step : Statement → α → Statement) (parts : α → List Part)
    (adds : ∀ s x, step s x = s.add (parts x)) (s : Statement) (xs : List α) :
    xs.foldl step s = s.add (xs.flatMap parts) := by
  induction xs generalizing s with
  | nil => rfl
  | cons x xs ih => rw [List.foldl_cons,adds,ih,add_add,List.flatMap_cons]

-- The form of every list in a statement: its first element, then each other after a text.
theorem joined_add (between : String) (parts : α → List Part) (step : Statement → α → Statement)
    (adds : ∀ s x, step s x = s.add (.text between :: parts x)) (s : Statement) (x : α)
    (xs : List α) :
    xs.foldl step (s.add (parts x)) = s.add (joined between parts (x :: xs)) := by
  rw [foldl_add step _ adds,add_add,joined]

theorem bindList_add (s : Statement) (vs : List Value) :
    s.bindList vs = s.add (joined ", " (fun v => [.value v]) vs) := by
  cases vs with
  | nil => rfl
  | cons v vs => exact joined_add ", " (fun v => [.value v]) _ (fun _ _ => rfl) s v vs

theorem pushIdents_add (s : Statement) (is : List Ident) :
    s.pushIdents is = s.add (joined ", " (fun i => [.text i.sql]) is) := by
  cases is with
  | nil => rfl
  | cons i is =>
    have next : ∀ (s : Statement) (i : Ident),
        (s.push ", ").pushIdent i = s.add [.text ", ",.text i.sql] := fun s i => by
      rw [pushIdent_add,push_add,add_add]; rfl
    rw [pushIdents,pushIdent_add]
    exact joined_add ", " (fun i => [.text i.sql]) _ next s i is

theorem add_sql (s : Statement) (parts : List Part) :
    (s.add parts).sql.toList = s.sql.toList ++ write s.params.size parts := by
  induction parts generalizing s with
  | nil => simp [write]
  | cons part rest ih =>
    have one := ih (s.addPart part)
    cases part with
    | text t => simpa [add,addPart,push,write] using one
    | value v => simpa [add,addPart,bind,write] using one

theorem add_params (s : Statement) (parts : List Part) :
    (s.add parts).params.toList = s.params.toList ++ values parts := by
  induction parts generalizing s with
  | nil => simp [values]
  | cons part rest ih =>
    have one := ih (s.addPart part)
    cases part with
    | text t => simpa [add,addPart,push,values] using one
    | value v => simpa [add,addPart,bind,values] using one

theorem ofParts_sql (parts : List Part) : (ofParts parts).sql.toList = write 0 parts := by
  simp [ofParts,add_sql]

theorem ofParts_params (parts : List Part) : (ofParts parts).params.toList = values parts := by
  simp [ofParts,add_params]

end Statement

end DataAccess
