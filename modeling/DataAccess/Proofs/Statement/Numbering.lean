import DataAccess.Proofs.Statement.Parts

-- Reading the placeholders back from the text of a statement. Parts of which no text has a dollar
-- sign, and none goes on with a digit where a placeholder ends, are written so that the
-- placeholders read are the numbers from one on, one for each value.
namespace DataAccess

namespace Statement

-- The digits after each dollar sign that has any, as far as they go.
def placeholders : List Char → List (List Char)
  | [] => []
  | c :: rest =>
    if c = '$' ∧ (rest.head?.any Char.isDigit) then
      rest.takeWhile Char.isDigit :: placeholders rest
    else placeholders rest

-- A statement refers to these values: each is bound, and the placeholders of its text are
-- the numbers of the values, in order and each once.
structure Binds (s : Statement) (vs : List Value) : Prop where
  bound : s.params.toList = vs
  counted : s.placeholderCount = vs.length
  numbered : placeholders s.sql.toList = (List.range' 1 vs.length).map (Nat.toDigits 10)

theorem placeholder_toList (n : Nat) : (placeholder n).toList = '$' :: Nat.toDigits 10 n := by
  simp [placeholder]

theorem countPlaceholders_eq (s : List Char) : countPlaceholders s = (placeholders s).length := by
  induction s with
  | nil => rfl
  | cons c rest ih =>
    simp only [countPlaceholders,placeholders]
    split
    · rw [ih,List.length_cons,Nat.add_comm]
    · rw [ih,Nat.zero_add]

theorem placeholders_of_plain {s : List Char} (plain : '$' ∉ s) (rest : List Char) :
    placeholders (s ++ rest) = placeholders rest := by
  induction s with
  | nil => rfl
  | cons c s ih =>
    rw [List.mem_cons,not_or] at plain
    rw [List.cons_append,placeholders,if_neg fun read => plain.1 read.1.symm]
    exact ih plain.2

theorem placeholders_of_digits {digits rest : List Char} (some : digits ≠ [])
    (all : ∀ c ∈ digits, c.isDigit) (ended : rest.head?.all (!·.isDigit)) :
    placeholders ('$' :: (digits ++ rest)) = digits :: placeholders rest := by
  have plain : '$' ∉ digits := fun member => absurd (all _ member) (by decide)
  have taken : (digits ++ rest).takeWhile Char.isDigit = digits := by
    rw [List.takeWhile_append_of_pos all]
    cases rest with
    | nil => simp
    | cons c rest => simp_all
  have starts : ((digits ++ rest).head?.any Char.isDigit) = true := by
    cases digits with
    | nil => exact absurd rfl some
    | cons c digits => simpa using all c
  rw [placeholders,if_pos ⟨rfl,starts⟩,taken,placeholders_of_plain plain]

end Statement

namespace Part
open Statement

-- No text has a dollar sign, and none right after a placeholder goes on with a digit.
def Legible (afterValue : Bool) : List Part → Prop
  | [] => True
  | text s :: rest =>
    '$' ∉ s.toList ∧ (afterValue → s.toList.head?.all (!·.isDigit)) ∧
      Legible (afterValue && s.isEmpty) rest
  | value _ :: rest => Legible true rest

theorem Legible.weaken {parts : List Part} (legible : Legible true parts) (afterValue : Bool) :
    Legible afterValue parts := by
  induction parts generalizing afterValue with
  | nil => trivial
  | cons part rest ih =>
    cases part with
    | value v => exact legible
    | text s =>
      obtain ⟨plain,ended,further⟩ := legible
      refine ⟨plain,fun _ => ended rfl,?_⟩
      cases empty : s.isEmpty with
      | true => exact ih (by simpa [empty] using further) _
      | false => simpa [empty] using further

theorem Legible.append {afterValue : Bool} {first second : List Part}
    (one : Legible afterValue first) (other : Legible true second) :
    Legible afterValue (first ++ second) := by
  induction first generalizing afterValue with
  | nil => exact other.weaken afterValue
  | cons part rest ih =>
    cases part with
    | value v => exact ih one
    | text s => exact ⟨one.1,one.2.1,ih one.2.2⟩

theorem legible_flatMap {parts : α → List Part} {xs : List α}
    (each : ∀ x ∈ xs, Legible true (parts x)) : Legible true (xs.flatMap parts) := by
  induction xs with
  | nil => trivial
  | cons x xs ih =>
    rw [List.flatMap_cons]
    exact (each x (by simp)).append (ih fun x member => each x (by simp [member]))

-- Texts that end the digits of a placeholder before them.
def Separates (s : String) : Prop := '$' ∉ s.toList ∧ s.toList.head?.any (!·.isDigit)

instance (s : String) : Decidable (Separates s) := by unfold Separates; infer_instance

theorem Separates.legible {s : String} {rest : List Part} (separates : Separates s)
    (further : Legible false rest) (afterValue : Bool) : Legible afterValue (text s :: rest) := by
  obtain ⟨plain,starts⟩ := separates
  have visible : s.isEmpty = false := by
    rw [String.isEmpty_eq_false_iff]
    rintro rfl
    cases starts
  refine ⟨plain,fun _ => ?_,by simpa [visible] using further⟩
  cases chars : s.toList with
  | nil => rfl
  | cons c cs => simpa [chars] using starts

theorem legible_joined {between : String} {parts : α → List Part} {xs : List α}
    (separates : Separates between) (each : ∀ x ∈ xs, Legible false (parts x)) :
    Legible false (joined between parts xs) := by
  cases xs with
  | nil => trivial
  | cons x xs =>
    refine (each x (by simp)).append (legible_flatMap fun x member => ?_)
    exact separates.legible (each x (by simp [member])) true

-- What is written after a placeholder does not go on with its digits.
theorem write_ends_digits {parts : List Part} (legible : Legible true parts) (bound : Nat) :
    (write bound parts).head?.all (!·.isDigit) := by
  induction parts generalizing bound with
  | nil => rfl
  | cons part rest ih =>
    cases part with
    | value v => rw [write,placeholder_toList]; rfl
    | text s =>
      obtain ⟨plain,ended,further⟩ := legible
      rw [write]
      cases chars : s.toList with
      | nil =>
        have empty : s = "" := String.toList_eq_nil_iff.mp chars
        subst empty
        exact ih further bound
      | cons c cs => simpa [chars] using ended rfl

theorem placeholders_write {afterValue : Bool} {parts : List Part}
    (legible : Legible afterValue parts) (bound : Nat) :
    placeholders (write bound parts) =
      (List.range' (bound + 1) (values parts).length).map (Nat.toDigits 10) := by
  induction parts generalizing afterValue bound with
  | nil => rfl
  | cons part rest ih =>
    cases part with
    | text s =>
      obtain ⟨plain,_,further⟩ := legible
      rw [write,placeholders_of_plain plain,values,ih further]
    | value v =>
      have digits : ∀ c ∈ Nat.toDigits 10 (bound + 1), c.isDigit := fun c member =>
        Nat.isDigit_of_mem_toDigits (by decide) (by decide) member
      rw [write,placeholder_toList,List.cons_append,
        placeholders_of_digits Nat.toDigits_ne_nil digits (write_ends_digits legible _),
        ih legible,values,List.length_cons,List.range'_succ,List.map_cons]

end Part

namespace Statement
open DataAccess.Part

theorem binds_of_legible {parts : List Part} (legible : Legible false parts) :
    (ofParts parts).Binds (values parts) := by
  have read := placeholders_write legible 0
  refine ⟨ofParts_params parts,?_,?_⟩
  · rw [placeholderCount,countPlaceholders_eq,ofParts_sql,read]
    simp
  · rw [ofParts_sql,read]

end Statement

end DataAccess
