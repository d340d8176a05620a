import DataAccess.Text.Blank

-- Texts taken apart: a word is a piece between blanks that is not empty, and joined texts are found
-- again behind their separators.
namespace DataAccess.Text

theorem words_blank (blank : isBlank c = true) (s : List Char) : words (c :: s) = words s := by
  rw [words,List.splitOnP_cons_eq_if_modifyHead,if_pos blank,List.filter_cons_of_neg (by simp)]
  rfl

-- A word up to the blank behind it, and one up to the end of the text.
theorem words_word {w : List Char} (some : w ≠ []) (solid : ∀ c ∈ w, isBlank c = false) :
    words w = [w] ∧ ∀ c rest, isBlank c = true → words (w ++ c :: rest) = w :: words rest := by
  have kept : w.isEmpty = false := List.isEmpty_eq_false_iff.mpr some
  constructor
  · simp [words,List.splitOnP_eq_singleton solid,kept]
  · intro c rest blank
    rw [words,words,List.splitOnP_append_cons_of_forall_mem solid c blank,
      List.filter_cons_of_pos (by simp [kept])]

-- What stands behind each separator belongs to the piece that follows it.
theorem intercalate_behind (c : Char) (behind first : List Char) (parts : List (List Char)) :
    List.intercalate (c :: behind) (first :: parts) = [c].intercalate (first :: parts.map (behind ++ ·)) := by
  induction parts generalizing first with
  | nil => simp
  | cons part parts ih =>
    have further := ih part
    cases parts <;> simp_all [List.intercalate_cons_cons]

theorem splitOn_joined {c : Char} {behind first : List Char} {parts : List (List Char)} (own : c ∉ first)
    (apart : c ∉ behind) (whole : ∀ part ∈ parts, c ∉ part) :
    (List.intercalate (c :: behind) (first :: parts)).splitOn c = first :: parts.map (behind ++ ·) := by
  rw [intercalate_behind]
  apply List.splitOn_intercalate c _ (List.cons_ne_nil _ _)
  rintro piece (_ | ⟨_,member⟩)
  · exact own
  · obtain ⟨part,given,rfl⟩ := List.mem_map.mp member
    exact List.not_mem_append apart (whole part given)

theorem length_splitOn (c : Char) (s : List Char) : (s.splitOn c).length = s.count c + 1 := by
  induction s with
  | nil => rfl
  | cons d rest ih =>
    rw [List.splitOn_cons_eq_if_modifyHead,List.count_cons]
    split
    · rw [List.length_cons,ih]
    · rw [List.length_modifyHead,ih]

end DataAccess.Text
