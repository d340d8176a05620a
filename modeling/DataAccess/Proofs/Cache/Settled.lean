import DataAccess.Proofs.Cache.SameReading

-- Texts that are their own canonical form: words with one space before each but the first, where a
-- word has no blanks and no quotes, and a digit after each dollar sign. The words are read off such
-- a text.
namespace DataAccess.Cache
open Text (isBlank)
open Lexical

def tidy : List Char → Bool
  | [] => true
  | c :: rest =>
    !isBlank c && !isQuote c && (c != '$' || rest.head?.any Char.isDigit) && tidy rest

structure IsWord (word : List Char) : Prop where
  some : word ≠ []
  tidy : tidy word = true

instance (word : List Char) : Decidable (IsWord word) :=
  decidable_of_iff (word ≠ [] ∧ Cache.tidy word = true)
    ⟨fun both => ⟨both.1,both.2⟩,fun word => ⟨word.some,word.tidy⟩⟩

theorem tidy_cons : tidy (c :: rest) ↔ isBlank c = false ∧ isQuote c = false ∧
    (c = '$' → rest.head?.any Char.isDigit) ∧ tidy rest := by
  simp only [tidy,Bool.and_eq_true,Bool.not_eq_true',Bool.or_eq_true,bne_iff_ne,and_assoc,
    ← Decidable.imp_iff_not_or]

theorem tidy_append (first : tidy a) (second : tidy b) : tidy (a ++ b) := by
  induction a with
  | nil => exact second
  | cons c a ih =>
    obtain ⟨seen,quote,sign,rest⟩ := tidy_cons.mp first
    refine tidy_cons.mpr ⟨seen,quote,fun same => ?_,ih rest⟩
    have digit := sign same
    cases a with
    | nil => cases digit
    | cons d a => exact digit

theorem IsWord.append (word : IsWord w) (more : Cache.tidy v) : IsWord (w ++ v) :=
  ⟨by simp [word.some],tidy_append word.tidy more⟩

theorem tidy_of_plain (plain : ∀ c ∈ w, isBlank c = false ∧ isQuote c = false ∧ c ≠ '$') : tidy w := by
  induction w with
  | nil => rfl
  | cons c w ih =>
    obtain ⟨seen,quote,sign⟩ := plain c (by simp)
    exact tidy_cons.mpr ⟨seen,quote,fun same => absurd same sign,
      ih fun d member => plain d (by simp [member])⟩

theorem tidy_seen (clean : tidy w) : ∀ c ∈ w, isBlank c = false := by
  induction w with
  | nil => simp
  | cons c w ih =>
    obtain ⟨seen,_,_,rest⟩ := tidy_cons.mp clean
    intro d member
    rcases List.mem_cons.mp member with rfl | later
    · exact seen
    · exact ih rest d later

theorem tag?_digit {d : Char} (digit : d.isDigit) (after : List Char) : tag? (d :: after) = none := by
  cases found : tag? (d :: after) with
  | none => rfl
  | some both =>
    obtain ⟨tag,body⟩ := both
    obtain ⟨split,_,starts⟩ := tag?_eq_some.mp found
    cases tag with
    | nil =>
      cases split
      cases digit
    | cons e tag =>
      cases split
      rw [starts d rfl] at digit
      cases digit

theorem canonical_tidy (clean : tidy w) (after : List Char) :
    canonical (w ++ after) = w ++ canonical after := by
  induction w with
  | nil => rfl
  | cons c w ih =>
    obtain ⟨seen,quote,sign,rest⟩ := tidy_cons.mp clean
    have untagged : c = '$' → tag? (w ++ after) = none := by
      intro same
      have digit := sign same
      cases w with
      | nil => cases digit
      | cons d w => exact tag?_digit digit _
    rw [List.cons_append,canonical_fragment seen quote untagged,ih rest,List.cons_append]

-- Words with a space before each.
def spaced (ws : List (List Char)) : List Char := ws.flatMap fun w => ' ' :: w

theorem spaced_cons (w : List Char) (ws : List (List Char)) :
    spaced (w :: ws) = ' ' :: (w ++ spaced ws) := rfl

theorem spaced_append (ws vs : List (List Char)) : spaced (ws ++ vs) = spaced ws ++ spaced vs :=
  List.flatMap_append

section Words

variable {w : List Char} {ws : List (List Char)}

theorem IsWord.head (word : IsWord w) (after : List Char) :
    ∃ c rest, w ++ after = c :: rest ∧ isBlank c = false := by
  obtain ⟨c,w,rfl⟩ := List.exists_cons_of_ne_nil word.some
  exact ⟨c,w ++ after,rfl,tidy_seen word.tidy c (by simp)⟩

theorem canonical_spaced (word : IsWord w) (words : ∀ v ∈ ws, IsWord v) :
    canonical (w ++ spaced ws) = w ++ spaced ws := by
  induction ws generalizing w with
  | nil =>
    rw [canonical_tidy word.tidy]
    exact congrArg (w ++ ·) canonical_nil
  | cons v ws ih =>
    have next : IsWord v := words v (by simp)
    obtain ⟨c,rest,same,seen⟩ := next.head (spaced ws)
    have space : canonical ([' '] ++ (v ++ spaced ws)) = ' ' :: canonical (v ++ spaced ws) :=
      canonical_blanks (by simp) (by simp; decide) (by simpa [same] using seen)
    rw [canonical_tidy word.tidy,spaced_cons]
    exact congrArg (w ++ ·) (space.trans (congrArg (' ' :: ·)
      (ih next fun u member => words u (by simp [member]))))

-- A text of words ends with the end of a word.
theorem spaced_last (word : IsWord w) (words : ∀ v ∈ ws, IsWord v) :
    ∃ before c, w ++ spaced ws = before ++ [c] ∧ isBlank c = false := by
  induction ws generalizing w with
  | nil =>
    have last := tidy_seen word.tidy _ (List.getLast_mem word.some)
    refine ⟨w.dropLast,w.getLast word.some,?_,last⟩
    rw [List.dropLast_concat_getLast]
    exact List.append_nil w
  | cons v ws ih =>
    obtain ⟨before,c,same,seen⟩ := ih (words v (by simp)) fun u member => words u (by simp [member])
    exact ⟨w ++ ' ' :: before,c,by rw [spaced_cons,same]; simp,seen⟩

theorem trim_spaced (word : IsWord w) (words : ∀ v ∈ ws, IsWord v) :
    Text.trim (w ++ spaced ws) = w ++ spaced ws := by
  obtain ⟨c,rest,first,seen⟩ := word.head (spaced ws)
  obtain ⟨before,d,last,ending⟩ := spaced_last word words
  have start : Text.trimStart (w ++ spaced ws) = w ++ spaced ws := by
    rw [first,Text.trimStart,List.dropWhile_cons_of_neg (by simp [seen])]
  rw [Text.trim,start,Text.trimEnd,last,List.reverse_append,List.reverse_singleton,Text.trimStart,
    List.singleton_append,List.dropWhile_cons_of_neg (by simp [ending])]
  simp

theorem canonicalSql_spaced {sql : String} (text : sql.toList = w ++ spaced ws) (word : IsWord w)
    (words : ∀ v ∈ ws, IsWord v) : canonicalSql sql = sql := by
  have same : canonical (Text.trim sql.toList) = sql.toList := by
    rw [text,trim_spaced word words,canonical_spaced word words]
  rw [canonical] at same
  rw [canonicalSql,same,String.ofList_toList]

end Words

-- What comes after a word ends, or begins with a space.
theorem spaced_starts (ws : List (List Char)) : ∀ c ∈ (spaced ws).head?, (!isBlank c) = false := by
  cases ws with
  | nil => simp [spaced]
  | cons w ws =>
    rw [spaced_cons]
    simp
    decide

theorem spaced_cancel {w v : List Char} {ws vs : List (List Char)} (word : IsWord w) (other : IsWord v)
    (same : w ++ spaced ws = v ++ spaced vs) : w = v ∧ spaced ws = spaced vs := by
  have inside {u : List Char} (word : IsWord u) : ∀ c ∈ u, (!isBlank c) = true := by
    intro c member
    rw [tidy_seen word.tidy c member]
    rfl
  obtain ⟨taken,dropped⟩ := takeWhile_stops (inside word) (spaced_starts ws)
  obtain ⟨taken',dropped'⟩ := takeWhile_stops (inside other) (spaced_starts vs)
  rw [same] at taken dropped
  exact ⟨taken.symm.trans taken',dropped.symm.trans dropped'⟩

-- The words are read off their text.
theorem spaced_injective {ws vs : List (List Char)} (words : ∀ w ∈ ws, IsWord w)
    (others : ∀ v ∈ vs, IsWord v) (same : spaced ws = spaced vs) : ws = vs := by
  induction ws generalizing vs with
  | nil =>
    cases vs with
    | nil => rfl
    | cons v vs => cases same
  | cons w ws ih =>
    cases vs with
    | nil => cases same
    | cons v vs =>
      rw [spaced_cons,spaced_cons] at same
      obtain ⟨rfl,rest⟩ := spaced_cancel (words w (by simp)) (others v (by simp))
        (List.cons.inj same).2
      exact congrArg (w :: ·) (ih (fun u member => words u (by simp [member]))
        (fun u member => others u (by simp [member])) rest)

end DataAccess.Cache
