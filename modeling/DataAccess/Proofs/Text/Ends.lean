import DataAccess.Text.Blank
import Mathlib.Data.List.DropRight

-- The ends of texts. A trimmed text has no blank at either end, so that trimming it again leaves it
-- as it is; and nothing is left of a text that is blank all through.
namespace DataAccess.Text

theorem trimStart_nil {s : List Char} : trimStart s = [] ↔ ∀ c ∈ s, isBlank c = true :=
  List.dropWhile_eq_nil_iff

-- A text without a blank at its ends.
structure Trimmed (s : List Char) : Prop where
  starts : ∀ c ∈ s.head?, isBlank c = false
  ends : ∀ c ∈ s.getLast?, isBlank c = false

theorem trimStart_starts (s : List Char) : ∀ c ∈ (trimStart s).head?, isBlank c = false := by
  intro c first
  have stopped := List.head?_dropWhile_not isBlank s
  rw [trimStart,Option.mem_def] at first
  rwa [first] at stopped

theorem trim_trimmed (s : List Char) : Trimmed (trim s) := by
  have kept : trim s <+: trimStart s := List.rdropWhile_prefix isBlank _
  refine ⟨fun c first => ?_,fun c last => ?_⟩
  · obtain ⟨rest,same⟩ := kept
    have begun : (trimStart s).head? = some c := by
      rw [← same,List.head?_append,Option.mem_def.mp first]
      rfl
    exact trimStart_starts s c begun
  · rw [trim,trimEnd,List.getLast?_reverse] at last
    exact trimStart_starts _ c last

theorem trimStart_kept {s : List Char} (starts : ∀ c ∈ s.head?, isBlank c = false) : trimStart s = s := by
  cases s with
  | nil => rfl
  | cons c s => exact List.dropWhile_cons_of_neg (by simp [starts c rfl])

theorem trimStart_blank {before : List Char} (blank : ∀ c ∈ before, isBlank c = true) (s : List Char) :
    trimStart (before ++ s) = trimStart s :=
  List.dropWhile_append_of_pos blank

-- Blanks around a text that has none at its ends are what trimming takes away.
theorem Trimmed.trim_around (trimmed : Trimmed s) {before after : List Char}
    (leading : ∀ c ∈ before, isBlank c = true) (trailing : ∀ c ∈ after, isBlank c = true) :
    Text.trim (before ++ s ++ after) = s := by
  rw [Text.trim,List.append_assoc,trimStart_blank leading]
  cases s with
  | nil => rw [List.nil_append,trimStart_nil.mpr trailing]; rfl
  | cons c s =>
    have starts : ∀ d ∈ (c :: s ++ after).head?, isBlank d = false := trimmed.starts
    have ends : ∀ d ∈ (c :: s).reverse.head?, isBlank d = false := by
      rw [List.head?_reverse]
      exact trimmed.ends
    have behind : ∀ d ∈ after.reverse, isBlank d = true := fun d member =>
      trailing d (List.mem_reverse.mp member)
    rw [trimStart_kept starts,trimEnd,List.reverse_append,trimStart_blank behind,trimStart_kept ends,
      List.reverse_reverse]

theorem Trimmed.trim (trimmed : Trimmed s) : Text.trim s = s := by
  have around : Text.trim ([] ++ s ++ []) = s := trimmed.trim_around (by simp) (by simp)
  simpa using around

-- A text without any blank.
structure Solid (s : List Char) : Prop where
  some : s ≠ []
  plain : ∀ c ∈ s, isBlank c = false

theorem Solid.append (first : Solid s) (second : Solid t) : Solid (s ++ t) :=
  ⟨List.append_ne_nil_of_left_ne_nil first.some t,List.forall_mem_append.mpr ⟨first.plain,second.plain⟩⟩

theorem Solid.trimmed (solid : Solid s) : Trimmed s :=
  ⟨fun c first => solid.plain c (List.mem_of_mem_head? first),
    fun c last => solid.plain c (List.mem_of_getLast? last)⟩

theorem Solid.starts (solid : Solid s) (rest : List Char) :
    ∀ c ∈ (s ++ rest).head?, isBlank c = false := by
  rw [List.head?_append_of_ne_nil _ solid.some]
  exact solid.trimmed.starts

-- Between two solid texts there may be blanks.
theorem Solid.around (first : Solid s) (last : Solid t) (between : List Char) :
    Trimmed (s ++ between ++ t) := by
  refine ⟨fun c starts => ?_,fun c ends => ?_⟩
  · rw [List.append_assoc] at starts
    exact first.starts _ c starts
  · rw [List.getLast?_append_of_ne_nil _ last.some] at ends
    exact last.trimmed.ends c ends

theorem trim_trim (s : List Char) : trim (trim s) = trim s := (trim_trimmed s).trim

theorem trim_nil {s : List Char} : trim s = [] ↔ ∀ c ∈ s, isBlank c = true := by
  rw [trim,trimEnd,List.reverse_eq_nil_iff,trimStart_nil]
  constructor
  · intro blank
    cases left : trimStart s with
    | nil => exact trimStart_nil.mp left
    | cons c rest =>
      have first := trimStart_starts s c (by rw [left]; rfl)
      have own := blank c (by simp [left])
      rw [first] at own
      cases own
  · intro blank
    simp [trimStart_nil.mpr blank]

theorem trimmed_empty (s : String) : trimmed s = "" ↔ isAllBlank s = true := by
  rw [trimmed,isAllBlank,List.all_eq_true,← trim_nil,← String.toList_inj,String.toList_ofList,
    String.toList_empty]

end DataAccess.Text
