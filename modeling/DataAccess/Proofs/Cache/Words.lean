import DataAccess.Proofs.Cache.Lexemes

-- What is read of a text: the words between its blanks and comments. Blanks at the ends of a text
-- are not read.
namespace DataAccess.Lexical
open Text (isBlank)

-- A first word, which is none if it is empty, and those after it.
def gathered : List Lexeme × List (List Lexeme) → List (List Lexeme)
  | ([],others) => others
  | (word,others) => word :: others

-- The lexemes up to the first blank or comment, and those of the words after it. A text that does
-- not close what it opens has none.
def words : List Lexeme → Option (List Lexeme × List (List Lexeme))
  | [] => some ([],[])
  | l :: more =>
    if l.isUnclosed then none
    else (words more).map fun (word,others) =>
      if l.isSilent then ([],gathered (word,others)) else (l :: word,others)

-- The words of a text. No token reaches over a blank or a comment, so that texts of the same words
-- have the same tokens.
def read (sql : String) : Option (List (List Lexeme)) := (words (lexemes sql.toList)).map gathered

-- Nothing stands after a comment but blanks and comments, and every dollar tag is in ASCII.
def regular : List Lexeme → Bool
  | [] => true
  | .comment _ :: more => more.all Lexeme.isSilent
  | l :: more => l.tag.all (fun c => c.toNat < 128) && regular more

def Regular (sql : String) : Prop := regular (lexemes sql.toList)

-- Lexemes of texts that read the same.
inductive ReadAlike : List Lexeme → List Lexeme → Prop
  | silent (first : ∀ l ∈ ls, l.isSilent) (second : ∀ l ∈ ms, l.isSilent) : ReadAlike ls ms
  | unclosed (tag run other : List Char) : ReadAlike [.unclosed tag run] [.unclosed tag other]
  | blanks (run other : List Char) (rest : ReadAlike ls ms) :
      ReadAlike (.blanks run :: ls) (.blanks other :: ms)
  | next (l : Lexeme) (rest : ReadAlike ls ms) : ReadAlike (l :: ls) (l :: ms)

theorem words_silent (silent : ∀ l ∈ ls, l.isSilent) : words ls = some ([],[]) := by
  induction ls with
  | nil => rfl
  | cons l ls ih =>
    have rest := ih fun m member => silent m (List.mem_cons_of_mem l member)
    have own := silent l (by simp)
    cases l with
    | blanks run | comment run => rw [words,rest]; rfl
    | _ => cases own

theorem words_blanks (run : List Char) (ls : List Lexeme) :
    (words (.blanks run :: ls)).map gathered = (words ls).map gathered := by
  rw [words,if_neg (by simp [Lexeme.isUnclosed])]
  cases words ls <;> rfl

theorem regular_silent (silent : ∀ l ∈ ls, l.isSilent) : regular ls := by
  induction ls with
  | nil => rfl
  | cons l ls ih =>
    have rest : ∀ m ∈ ls, m.isSilent := fun m member => silent m (List.mem_cons_of_mem l member)
    have own := silent l (by simp)
    cases l with
    | blanks run => exact ih rest
    | comment run => exact List.all_eq_true.mpr rest
    | _ => cases own

namespace ReadAlike

theorem words_eq (alike : ReadAlike ls ms) : words ls = words ms := by
  induction alike with
  | silent first second => rw [words_silent first,words_silent second]
  | unclosed tag run other => rfl
  | blanks run other rest ih => rw [Lexical.words,Lexical.words,ih]; rfl
  | next l rest ih => rw [Lexical.words,Lexical.words,ih]

theorem all_silent (alike : ReadAlike ls ms) : ls.all Lexeme.isSilent = ms.all Lexeme.isSilent := by
  induction alike with
  | silent first second => rw [List.all_eq_true.mpr first,List.all_eq_true.mpr second]
  | unclosed tag run other => rfl
  | blanks run other rest ih => rw [List.all_cons,List.all_cons,ih]; rfl
  | next l rest ih => rw [List.all_cons,List.all_cons,ih]

theorem regular_eq (alike : ReadAlike ls ms) : regular ls = regular ms := by
  induction alike with
  | silent first second => rw [regular_silent first,regular_silent second]
  | unclosed tag run other => rfl
  | blanks run other rest ih => exact congrArg (true && ·) ih
  | next l rest ih =>
    cases l with
    | comment run => exact rest.all_silent
    | _ => simp only [Lexical.regular,ih]

end ReadAlike

theorem comment_snoc (line : ∀ c ∈ run, inLine c) (blank : isBlank b) :
    ReadAlike (lexemes ('-' :: '-' :: (run ++ [b]))) [.comment ('-' :: '-' :: run)] := by
  cases kept : inLine b with
  | false =>
    have ends : ∀ c ∈ [b].head?, inLine c = false := by simpa using kept
    rw [(Takes.comment line ends).lexemes,lexemes_blanks (by simp) (by simpa using blank)]
    exact .silent (by simp [Lexeme.isSilent]) (by simp [Lexeme.isSilent])
  | true =>
    have longer : ∀ c ∈ run ++ [b], inLine c := by
      simpa [or_imp,forall_and] using ⟨line,kept⟩
    have taken : Takes ('-' :: '-' :: (run ++ [b] ++ [])) _ [] := .comment longer (by simp)
    have read := taken.lexemes
    rw [List.append_nil] at read
    rw [read,lexemes]
    exact .silent (by simp [Lexeme.isSilent]) (by simp [Lexeme.isSilent])

theorem alike_snoc (s : List Char) (blank : isBlank b) :
    ReadAlike (lexemes (s ++ [b])) (lexemes s) := by
  induction s using lexeme_induction with
  | nil =>
    rw [List.nil_append,lexemes_blanks (by simp) (by simpa using blank),lexemes]
    exact .silent (by simp [Lexeme.isSilent]) (by simp)
  | @step s l after taken ih =>
    -- The lexeme stays as it is, unless it goes on to the end of the text.
    suffices whole : Takes (s ++ [b]) l (after ++ [b]) ∨
        ReadAlike (lexemes (s ++ [b])) (l :: lexemes after) by
      rcases whole with kept | alike
      · rw [taken.lexemes,kept.lexemes]
        exact .next l ih
      · rwa [taken.lexemes]
    have source := taken.source
    have solid : l.isSilent = false ∧ l.isUnclosed = false → Takes (s ++ [b]) l (after ++ [b]) := by
      intro solid
      rw [source,List.append_assoc]
      exact taken.meets solid (.snoc after blank)
    cases taken with
    | quoted | dollarQuoted | fragment => exact .inl (solid ⟨rfl,rfl⟩)
    | @blanks run _ some all ends =>
      cases after with
      | cons d rest =>
        rw [List.append_assoc]
        exact .inl (.blanks some all (by simpa using ends))
      | nil =>
        right
        have longer : ∀ c ∈ run ++ [b], isBlank c := by
          simpa [or_imp,forall_and] using ⟨all,blank⟩
        rw [List.append_nil,lexemes_blanks (by simp) longer]
        exact .blanks _ _ (.silent (by simp) (by simp [lexemes]))
    | @comment run _ line ends =>
      cases after with
      | cons d rest =>
        have ends : ∀ c ∈ (d :: rest ++ [b]).head?, inLine c = false := by simpa using ends
        have taken := Takes.comment line ends
        rw [← List.append_assoc] at taken
        exact .inl taken
      | nil =>
        right
        rw [List.append_nil,lexemes]
        exact comment_snoc line blank
    | @openQuote q s quote opened =>
      right
      have differs : b ≠ q := by
        rintro rfl
        rw [(quote_cases quote).1] at blank
        cases blank
      rw [List.cons_append,(Takes.openQuote quote (opened.snoc differs)).lexemes,lexemes]
      exact .unclosed _ _ _
    | @openTag tag s named lacks =>
      right
      have differs : b ≠ '$' := by
        rintro rfl
        cases blank
      have lacks : ¬('$' :: tag) ++ ['$'] <:+: s := lacks
      rw [List.append_assoc,(Takes.openTag named (lacks_snoc lacks differs)).lexemes,lexemes]
      exact .unclosed _ _ _

theorem trimStart_alike (s : List Char) :
    (words (lexemes (Text.trimStart s))).map gathered = (words (lexemes s)).map gathered ∧
      regular (lexemes (Text.trimStart s)) = regular (lexemes s) := by
  have parts := List.takeWhile_append_dropWhile (p := isBlank) (l := s)
  cases led : s.takeWhile isBlank with
  | nil =>
    rw [led,List.nil_append] at parts
    rw [Text.trimStart,parts]
    exact ⟨rfl,rfl⟩
  | cons c run =>
    have blank : ∀ d ∈ c :: run, isBlank d := by
      rw [← led]
      exact List.all_eq_true.mp List.all_takeWhile
    have taken := (Takes.blanks (by simp) blank (head_dropWhile (s := s))).lexemes
    rw [← led,parts] at taken
    rw [taken]
    exact ⟨(words_blanks _ _).symm,rfl⟩

-- Blanks at the ends of a text are not read.
theorem trim_alike (s : List Char) :
    (words (lexemes (Text.trim s))).map gathered = (words (lexemes s)).map gathered ∧
      regular (lexemes (Text.trim s)) = regular (lexemes s) := by
  have ends : ∀ r : List Char,
      words (lexemes (r.dropWhile isBlank).reverse) = words (lexemes r.reverse) ∧
      regular (lexemes (r.dropWhile isBlank).reverse) = regular (lexemes r.reverse) := by
    intro r
    induction r with
    | nil => exact ⟨rfl,rfl⟩
    | cons b r ih =>
      cases blank : isBlank b with
      | false => rw [List.dropWhile_cons_of_neg (by simp [blank])]; exact ⟨rfl,rfl⟩
      | true =>
        have alike := alike_snoc r.reverse blank
        rw [List.dropWhile_cons_of_pos blank,List.reverse_cons,alike.words_eq,alike.regular_eq]
        exact ih
  have last := ends (Text.trimStart s).reverse
  rw [List.reverse_reverse] at last
  obtain ⟨read,regular⟩ := trimStart_alike s
  exact ⟨(congrArg (Option.map gathered) last.1).trans read,last.2.trans regular⟩

end DataAccess.Lexical
