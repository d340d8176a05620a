import DataAccess.Proofs.Text.Letters

-- How a server reads the text of a statement. A comment begins with two dashes and ends with its
-- line; text in quotes ends at the next quote that is not doubled; between a dollar tag and the
-- same tag anything may stand; blanks only keep apart what stands around them.
namespace DataAccess.Lexical
open Text (isBlank isBlank_of_alphanum)

inductive Lexeme where
  | blanks (run : List Char)
  | comment (run : List Char)
  | quoted (run : List Char)
  | dollarQuoted (tag run : List Char)
  -- What the text ends in when it opens a quote or a tag and does not close it.
  | unclosed (tag run : List Char)
  | fragment (c : Char)
  deriving DecidableEq, Repr

namespace Lexeme

def source : Lexeme → List Char
  | blanks run | comment run | quoted run | dollarQuoted _ run | unclosed _ run => run
  | fragment c => [c]

def tag : Lexeme → List Char
  | dollarQuoted tag _ | unclosed tag _ => tag
  | _ => []

def isSilent : Lexeme → Bool
  | blanks _ | comment _ => true
  | _ => false

def isUnclosed : Lexeme → Bool
  | unclosed _ _ => true
  | _ => false

end Lexeme

def isQuote (c : Char) : Bool := c == '\'' || c == '"'

def inLine (c : Char) : Bool := c != '\n' && c != '\r'

def inTag (c : Char) : Bool := c.isAlphanum || c == '_' || (128 ≤ c.toNat && !isBlank c)

-- Through the first quote that is not doubled, and what follows it.
def quote? (q : Char) : List Char → Option (List Char × List Char)
  | [] => none
  | [c] => if c = q then some ([c],[]) else none
  | c :: d :: rest =>
    if c = q then
      if d = q then (quote? q rest).map fun (run,after) => (c :: d :: run,after)
      else some ([c],d :: rest)
    else (quote? q (d :: rest)).map fun (run,after) => (c :: run,after)

-- The tag that a dollar sign begins, and what follows the sign that ends it.
def tag? (afterSign : List Char) : Option (List Char × List Char) :=
  match afterSign.dropWhile inTag with
  | '$' :: body =>
    let tag := afterSign.takeWhile inTag
    if tag.head?.any Char.isDigit then none else some (tag,body)
  | _ => none

def signed (tag : List Char) : List Char := '$' :: (tag ++ ['$'])

-- Through the first place where the mark stands, and what follows it.
def through? (mark : List Char) : List Char → Option (List Char × List Char)
  | [] => none
  | c :: rest =>
    if mark.isPrefixOf (c :: rest) then some (mark,(c :: rest).drop mark.length)
    else (through? mark rest).map fun (run,after) => (c :: run,after)

def take (c : Char) (rest : List Char) : Lexeme × List Char :=
  if isBlank c then (.blanks (c :: rest.takeWhile isBlank),rest.dropWhile isBlank)
  else if c = '-' ∧ rest.head? = some '-' then
    (.comment (c :: rest.takeWhile inLine),rest.dropWhile inLine)
  else if isQuote c then
    match quote? c rest with
    | some (run,after) => (.quoted (c :: run),after)
    | none => (.unclosed [] (c :: rest),[])
  else if c = '$' then
    match tag? rest with
    | some (tag,body) =>
      match through? (signed tag) body with
      | some (run,after) => (.dollarQuoted tag (signed tag ++ run),after)
      | none => (.unclosed tag (c :: rest),[])
    | none => (.fragment c,rest)
  else (.fragment c,rest)

-- A run that opens a quote already opened: doubled quotes and other characters, then a quote.
inductive Closes (q : Char) : List Char → Prop
  | quote : Closes q [q]
  | doubled (rest : Closes q run) : Closes q (q :: q :: run)
  | other (c : Char) (differs : c ≠ q) (rest : Closes q run) : Closes q (c :: run)

inductive Open (q : Char) : List Char → Prop
  | nil : Open q []
  | doubled (rest : Open q run) : Open q (q :: q :: run)
  | other (c : Char) (differs : c ≠ q) (rest : Open q run) : Open q (c :: run)

theorem Closes.quote? (closes : Closes q run) (undoubled : after.head? ≠ some q) :
    quote? q (run ++ after) = some (run,after) := by
  induction closes with
  | quote =>
    cases after with
    | nil => simp [Lexical.quote?]
    | cons d rest =>
      have other : d ≠ q := fun same => undoubled (by rw [same]; rfl)
      simp [Lexical.quote?,other]
  | doubled rest ih => simp [Lexical.quote?,ih]
  | @other run c differs rest ih =>
    cases run with
    | nil => cases rest
    | cons d run =>
      rw [List.cons_append] at ih
      simp [Lexical.quote?,differs,ih]

theorem Open.quote? (opened : Open q s) : quote? q s = none := by
  induction opened with
  | nil => rfl
  | doubled rest ih => simp [Lexical.quote?,ih]
  | @other run c differs rest ih =>
    cases run with
    | nil => simp [Lexical.quote?,differs]
    | cons d run => simp [Lexical.quote?,differs,ih]

-- A text after a quote closes it or leaves it open.
theorem closes_or_open (q : Char) (s : List Char) :
    (∃ run after, s = run ++ after ∧ Closes q run ∧ after.head? ≠ some q) ∨ Open q s := by
  fun_induction Lexical.quote? q s with
  | case1 => exact .inr .nil
  | case2 => exact .inl ⟨[q],[],rfl,.quote,by simp⟩
  | case3 c differs => exact .inr (.other c differs .nil)
  | case4 rest ih =>
    rcases ih with ⟨run,after,rfl,closes,undoubled⟩ | opened
    · exact .inl ⟨q :: q :: run,after,rfl,.doubled closes,undoubled⟩
    · exact .inr (.doubled opened)
  | case5 d rest differs => exact .inl ⟨[q],d :: rest,rfl,.quote,by simpa using differs⟩
  | case6 c d rest differs ih =>
    rcases ih with ⟨run,after,same,closes,undoubled⟩ | opened
    · exact .inl ⟨c :: run,after,by rw [same]; rfl,.other c differs closes,undoubled⟩
    · exact .inr (.other c differs opened)

def IsTag (tag : List Char) : Prop := (∀ c ∈ tag, inTag c) ∧ ∀ c ∈ tag.head?, c.isDigit = false

theorem tag?_eq_some : tag? s = some (tag,body) ↔ s = tag ++ '$' :: body ∧ IsTag tag := by
  have stops : inTag '$' = false := by decide
  constructor
  · intro found
    have parts := List.takeWhile_append_dropWhile (p := inTag) (l := s)
    simp only [tag?] at found
    split at found
    · rename_i rest remains
      split at found
      · cases found
      · rename_i started
        cases found
        rw [remains] at parts
        refine ⟨parts.symm,List.all_eq_true.mp List.all_takeWhile,fun c first => ?_⟩
        rw [first] at started
        simpa using started
    · cases found
  · rintro ⟨rfl,inside,started⟩
    have taken : (tag ++ '$' :: body).takeWhile inTag = tag := by
      rw [List.takeWhile_append_of_pos inside,List.takeWhile_cons_of_neg (by simp [stops]),List.append_nil]
    have dropped : (tag ++ '$' :: body).dropWhile inTag = '$' :: body := by
      rw [List.dropWhile_append_of_pos inside,List.dropWhile_cons_of_neg (by simp [stops])]
    simp only [tag?,dropped,taken]
    rw [if_neg]
    cases tag with
    | nil => simp
    | cons c tag => simpa using started c rfl

-- A run that ends in the mark and holds it nowhere before.
inductive Reaches (mark : List Char) : List Char → Prop
  | here : Reaches mark mark
  | further (c : Char) (lacks : ¬mark <+: c :: run) (rest : Reaches mark run) : Reaches mark (c :: run)

theorem Reaches.length_le (reaches : Reaches mark run) : mark.length ≤ run.length := by
  induction reaches with
  | here => exact Nat.le_refl _
  | further c lacks rest ih => exact Nat.le_succ_of_le ih

theorem Reaches.lacks (reaches : Reaches mark run) (lacks : ¬mark <+: c :: run) (after : List Char) :
    ¬mark <+: c :: (run ++ after) := fun leads =>
  lacks (List.prefix_of_prefix_length_le leads (List.prefix_append (c :: run) after)
    (Nat.le_succ_of_le reaches.length_le))

theorem Reaches.through? (reaches : Reaches mark run) (nonempty : mark ≠ []) (after : List Char) :
    through? mark (run ++ after) = some (run,after) := by
  induction reaches with
  | here =>
    obtain ⟨c,rest,rfl⟩ := List.exists_cons_of_ne_nil nonempty
    have leads : (c :: rest).isPrefixOf (c :: (rest ++ after)) = true :=
      List.isPrefixOf_iff_prefix.mpr (List.prefix_append (c :: rest) after)
    rw [List.cons_append,Lexical.through?,if_pos leads,← List.cons_append,List.drop_left]
  | further c lacks rest ih =>
    have later : ¬mark.isPrefixOf (c :: (_ ++ after)) = true := fun leads =>
      rest.lacks lacks after (List.isPrefixOf_iff_prefix.mp leads)
    rw [List.cons_append,Lexical.through?,if_neg later,ih]
    rfl

theorem through?_eq_none (lacks : ¬mark <:+: s) : through? mark s = none := by
  induction s with
  | nil => rfl
  | cons c rest ih =>
    rw [List.infix_cons_iff,not_or] at lacks
    rw [through?,if_neg fun leads => lacks.1 (List.isPrefixOf_iff_prefix.mp leads),ih lacks.2]
    rfl

theorem reaches_or_lacks (mark s : List Char) :
    (∃ run after, s = run ++ after ∧ Reaches mark run) ∨ ¬mark <:+: s := by
  induction s with
  | nil =>
    cases mark with
    | nil => exact .inl ⟨[],[],rfl,.here⟩
    | cons c mark => exact .inr (by simp)
  | cons c rest ih =>
    by_cases leads : mark <+: c :: rest
    · obtain ⟨after,same⟩ := leads
      exact .inl ⟨mark,after,same.symm,.here⟩
    · rcases ih with ⟨run,after,rfl,reaches⟩ | lacks
      · refine .inl ⟨c :: run,after,rfl,.further c (fun early => leads ?_) reaches⟩
        exact early.trans (List.prefix_append (c :: run) after)
      · exact .inr (by rw [List.infix_cons_iff,not_or]; exact ⟨leads,lacks⟩)

inductive Takes : List Char → Lexeme → List Char → Prop
  | blanks (some : run ≠ []) (blank : ∀ c ∈ run, isBlank c)
      (ends : ∀ c ∈ after.head?, isBlank c = false) : Takes (run ++ after) (.blanks run) after
  | comment (line : ∀ c ∈ run, inLine c) (ends : ∀ c ∈ after.head?, inLine c = false) :
      Takes ('-' :: '-' :: (run ++ after)) (.comment ('-' :: '-' :: run)) after
  | quoted (quote : isQuote q) (closes : Closes q run) (undoubled : after.head? ≠ some q) :
      Takes (q :: (run ++ after)) (.quoted (q :: run)) after
  | openQuote (quote : isQuote q) (opened : Open q s) : Takes (q :: s) (.unclosed [] (q :: s)) []
  | dollarQuoted (named : IsTag tag) (reaches : Reaches (signed tag) run) :
      Takes (signed tag ++ (run ++ after)) (.dollarQuoted tag (signed tag ++ run)) after
  | openTag (named : IsTag tag) (lacks : ¬signed tag <:+: s) :
      Takes (signed tag ++ s) (.unclosed tag (signed tag ++ s)) []
  | fragment (blank : isBlank c = false) (quote : isQuote c = false)
      (dashes : c = '-' → after.head? ≠ some '-') (sign : c = '$' → tag? after = none) :
      Takes (c :: after) (.fragment c) after

theorem head_dropWhile {p : Char → Bool} {s : List Char} : ∀ c ∈ (s.dropWhile p).head?, p c = false := by
  intro c first
  have remains := List.head?_dropWhile_not p s
  rw [first] at remains
  simpa using remains

theorem signed_append (tag s : List Char) : signed tag ++ s = '$' :: (tag ++ '$' :: s) := by
  simp [signed]

theorem takes_take (c : Char) (rest : List Char) : Takes (c :: rest) (take c rest).1 (take c rest).2 := by
  unfold take
  split
  · rename_i blank
    have run : ∀ d ∈ c :: rest.takeWhile isBlank, isBlank d = true := by
      intro d member
      rcases List.mem_cons.mp member with rfl | inside
      · exact blank
      · exact List.all_eq_true.mp List.all_takeWhile d inside
    have taken := Takes.blanks (by simp) run (head_dropWhile (s := rest))
    rwa [List.cons_append,List.takeWhile_append_dropWhile] at taken
  rename_i blank
  split
  · rename_i dashes
    obtain ⟨rfl,second⟩ := dashes
    cases rest with
    | nil => cases second
    | cons d rest =>
      cases second
      have dash : inLine '-' = true := by decide
      rw [List.takeWhile_cons_of_pos dash,List.dropWhile_cons_of_pos dash]
      have line : ∀ d ∈ rest.takeWhile inLine, inLine d = true :=
        List.all_eq_true.mp List.all_takeWhile
      have taken := Takes.comment line (head_dropWhile (s := rest))
      rwa [List.takeWhile_append_dropWhile] at taken
  rename_i dashes
  split
  · rename_i quote
    rcases closes_or_open c rest with ⟨run,after,rfl,closes,undoubled⟩ | opened
    · rw [closes.quote? undoubled]
      exact .quoted quote closes undoubled
    · rw [opened.quote?]
      exact .openQuote quote opened
  rename_i quote
  split
  · rename_i sign
    subst sign
    cases named : tag? rest with
    | none =>
      have plain : '$' ≠ '-' := by decide
      exact .fragment (by simpa using blank) (by simpa using quote)
        (fun dash => absurd dash plain) fun _ => named
    | some found =>
      obtain ⟨tag,body⟩ := found
      obtain ⟨rfl,isTag⟩ := tag?_eq_some.mp named
      dsimp only
      rw [← signed_append]
      rcases reaches_or_lacks (signed tag) body with ⟨run,after,rfl,reaches⟩ | lacks
      · rw [reaches.through? (by simp [signed])]
        exact .dollarQuoted isTag reaches
      · rw [through?_eq_none lacks]
        exact .openTag isTag lacks
  · rename_i sign
    exact .fragment (by simpa using blank) (by simpa using quote)
      (fun dash second => dashes ⟨dash,second⟩) fun same => absurd same sign

theorem Takes.shorter (taken : Takes s l after) : after.length < s.length := by
  cases taken with
  | blanks some =>
    have := List.length_pos_iff.mpr some
    simp only [List.length_append]
    omega
  | _ => simp [signed] <;> omega

def lexemes : List Char → List Lexeme
  | [] => []
  | c :: rest => (take c rest).1 :: lexemes (take c rest).2
termination_by s => s.length
decreasing_by exact (takes_take c rest).shorter

theorem takeWhile_stops {p : Char → Bool} {run after : List Char} (inside : ∀ c ∈ run, p c)
    (ends : ∀ c ∈ after.head?, p c = false) :
    (run ++ after).takeWhile p = run ∧ (run ++ after).dropWhile p = after := by
  rw [List.takeWhile_append_of_pos inside,List.dropWhile_append_of_pos inside]
  cases after with
  | nil => simp
  | cons c after =>
    have stop : ¬p c = true := by simp [ends c rfl]
    rw [List.takeWhile_cons_of_neg stop,List.dropWhile_cons_of_neg stop,List.append_nil]
    exact ⟨rfl,rfl⟩

theorem quote_cases {q : Char} (quote : isQuote q) :
    isBlank q = false ∧ q ≠ '-' ∧ (q = '\'' ∨ q = '"') := by
  simp only [isQuote,Bool.or_eq_true,beq_iff_eq] at quote
  rcases quote with rfl | rfl <;> decide

theorem Takes.lexemes (taken : Takes s l after) : lexemes s = l :: lexemes after := by
  suffices first : ∃ c rest, s = c :: rest ∧ take c rest = (l,after) by
    obtain ⟨c,rest,rfl,same⟩ := first
    rw [Lexical.lexemes,same]
  cases taken with
  | @blanks run _ some blank ends =>
    obtain ⟨c,run,rfl⟩ := List.exists_cons_of_ne_nil some
    refine ⟨c,run ++ after,rfl,?_⟩
    have further := takeWhile_stops (fun d member => blank d (List.mem_cons_of_mem c member)) ends
    rw [take,if_pos (blank c (by simp)),further.1,further.2]
  | @comment run _ line ends =>
    refine ⟨'-','-' :: (run ++ after),rfl,?_⟩
    have further := takeWhile_stops line ends
    have dash : inLine '-' = true := by decide
    rw [take,if_neg (by decide),if_pos ⟨rfl,rfl⟩,List.takeWhile_cons_of_pos dash,
      List.dropWhile_cons_of_pos dash,further.1,further.2]
  | @quoted q run _ quote closes undoubled =>
    obtain ⟨blank,dash,_⟩ := quote_cases quote
    refine ⟨q,run ++ after,rfl,?_⟩
    rw [take,if_neg (by simp [blank]),if_neg fun dashes => dash dashes.1,if_pos quote,
      closes.quote? undoubled]
  | @openQuote q s quote opened =>
    obtain ⟨blank,dash,_⟩ := quote_cases quote
    refine ⟨q,s,rfl,?_⟩
    rw [take,if_neg (by simp [blank]),if_neg fun dashes => dash dashes.1,if_pos quote,opened.quote?]
  | @dollarQuoted tag run _ named reaches =>
    refine ⟨'$',tag ++ '$' :: (run ++ after),signed_append _ _,?_⟩
    have read : tag? (tag ++ '$' :: (run ++ after)) = some (tag,run ++ after) :=
      tag?_eq_some.mpr ⟨rfl,named⟩
    rw [take,if_neg (by decide),if_neg (by simp),if_neg (by decide),if_pos rfl,read]
    dsimp only
    rw [reaches.through? (by simp [signed])]
  | @openTag tag s named lacks =>
    refine ⟨'$',tag ++ '$' :: s,signed_append _ _,?_⟩
    have read : tag? (tag ++ '$' :: s) = some (tag,s) := tag?_eq_some.mpr ⟨rfl,named⟩
    rw [take,if_neg (by decide),if_neg (by simp),if_neg (by decide),if_pos rfl,read]
    dsimp only
    rw [through?_eq_none lacks,signed_append]
  | @fragment c _ blank quote dashes sign =>
    refine ⟨c,after,rfl,?_⟩
    rw [take,if_neg (by simp [blank]),if_neg fun both => dashes both.1 both.2,if_neg (by simp [quote])]
    split
    · rename_i same
      rw [sign same]
    · rfl

-- Text is read one lexeme after the other.
theorem lexeme_induction {motive : List Char → Prop} (nil : motive [])
    (step : ∀ {s l after}, Takes s l after → motive after → motive s) (s : List Char) : motive s := by
  induction s using lexemes.induct with
  | case1 => exact nil
  | case2 c rest ih => exact step (takes_take c rest) ih

-- Texts that agree up to a blank or the end in each of them.
inductive Meets : List Char → List Char → Prop
  | apart (first : ∀ c ∈ s.head?, isBlank c) (second : ∀ c ∈ t.head?, isBlank c) : Meets s t
  | next (c : Char) (rest : Meets s t) : Meets (c :: s) (c :: t)

namespace Meets

theorem symm (meets : Meets s t) : Meets t s := by
  induction meets with
  | apart first second => exact .apart second first
  | next c rest ih => exact .next c ih

theorem append (run : List Char) (meets : Meets s t) : Meets (run ++ s) (run ++ t) := by
  induction run with
  | nil => exact meets
  | cons c run ih => exact .next c ih

theorem exists_rest (plain : ∀ c ∈ run, isBlank c = false) (meets : Meets (run ++ s) t) :
    ∃ rest, t = run ++ rest := by
  induction run generalizing t with
  | nil => exact ⟨t,rfl⟩
  | cons c run ih =>
    cases meets with
    | apart first => exact absurd (first c rfl) (by simp [plain c])
    | next _ meets =>
      obtain ⟨rest,rfl⟩ := ih (fun d member => plain d (List.mem_cons_of_mem c member)) meets
      exact ⟨rest,rfl⟩

theorem head?_of_plain (meets : Meets s t) (plain : isBlank c = false) (first : t.head? = some c) :
    s.head? = some c := by
  cases meets with
  | apart _ second => rw [second c first] at plain; cases plain
  | next d rest => exact first

end Meets

theorem isBlank_of_inTag {c : Char} (inside : inTag c) : isBlank c = false := by
  simp only [inTag,Bool.or_eq_true,Bool.and_eq_true,beq_iff_eq] at inside
  rcases inside with (word | rfl) | ⟨_,plain⟩
  · exact isBlank_of_alphanum word
  · decide
  · simpa using plain

theorem Meets.tag? (meets : Meets s t) (opens : tag? s = none) : tag? t = none := by
  cases found : Lexical.tag? t with
  | none => rfl
  | some both =>
    obtain ⟨tag,body⟩ := both
    obtain ⟨rfl,named⟩ := tag?_eq_some.mp found
    have plain : ∀ c ∈ tag ++ ['$'], isBlank c = false := by
      intro c member
      rcases List.mem_append.mp member with inside | sign
      · exact isBlank_of_inTag (named.1 c inside)
      · cases List.mem_singleton.mp sign
        decide
    rw [List.append_cons] at meets
    obtain ⟨rest,rfl⟩ := meets.symm.exists_rest plain
    have opened : Lexical.tag? (tag ++ ['$'] ++ rest) = some (tag,rest) :=
      tag?_eq_some.mpr ⟨(List.append_cons _ _ _).symm,named⟩
    rw [opens] at opened
    cases opened

theorem Takes.source (taken : Takes s l after) : s = l.source ++ after := by
  cases taken with
  | openQuote | openTag => exact (List.append_nil _).symm
  | dollarQuoted => exact (List.append_assoc _ _ _).symm
  | _ => rfl

-- How a lexeme ends that is neither silent nor unclosed does not depend on what comes after a blank.
theorem Takes.meets (taken : Takes s l after) (solid : l.isSilent = false ∧ l.isUnclosed = false)
    (meets : Meets after other) : Takes (l.source ++ other) l other := by
  cases taken with
  | quoted quote closes undoubled =>
    obtain ⟨plain,_,_⟩ := quote_cases quote
    exact .quoted quote closes fun first => undoubled (meets.head?_of_plain plain first)
  | @dollarQuoted tag run _ named reaches =>
    have taken : Takes (signed tag ++ (run ++ other)) _ other := .dollarQuoted named reaches
    rwa [← List.append_assoc] at taken
  | fragment blank quote dashes sign =>
    exact .fragment blank quote (fun dash first => dashes dash (meets.head?_of_plain (by decide) first))
      fun same => meets.tag? (sign same)
  | blanks | comment => cases solid.1
  | openQuote | openTag => cases solid.2

theorem Open.snoc (opened : Open q s) (differs : b ≠ q) : Open q (s ++ [b]) := by
  induction opened with
  | nil => exact .other b differs .nil
  | doubled rest ih => exact .doubled ih
  | other c other rest ih => exact .other c other ih

theorem lacks_snoc {mark s : List Char} (lacks : ¬mark ++ [m] <:+: s) (differs : b ≠ m) :
    ¬mark ++ [m] <:+: s ++ [b] := by
  rintro ⟨before,rest,same⟩
  rcases List.eq_nil_or_concat rest with rfl | ⟨rest,last,rfl⟩
  · rw [List.append_nil,← List.append_assoc] at same
    exact differs (List.singleton_inj.mp (List.append_inj_right' same rfl)).symm
  · rw [List.concat_eq_append,← List.append_assoc] at same
    exact lacks ⟨before,rest,List.append_inj_left' same rfl⟩

theorem Meets.snoc (s : List Char) (blank : isBlank b) : Meets s (s ++ [b]) := by
  have ends : Meets [] [b] := .apart (by simp) (by simpa using blank)
  simpa using ends.append s

theorem lexemes_blanks {run : List Char} (some : run ≠ []) (blank : ∀ c ∈ run, isBlank c) :
    lexemes run = [.blanks run] := by
  have taken : Takes (run ++ []) (.blanks run) [] := .blanks some blank (by simp)
  rw [← List.append_nil run,taken.lexemes,lexemes,List.append_nil]

end DataAccess.Lexical
