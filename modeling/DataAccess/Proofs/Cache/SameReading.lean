import DataAccess.Cache.Key
import DataAccess.Proofs.Cache.Words

-- Canonical text against what a server reads. Quotes and tags begin and end where the server has
-- them begin and end, so that a text reads as its canonical form does. A comment is not known to
-- the canonical form: once the end of its line is a space, it takes in what follows.
namespace DataAccess.Cache
open Text (isBlank isAlpha_iff isDigit_iff isAlphanum_iff)
open Lexical

def canonical (s : List Char) : List Char := (pieces s).flatMap Piece.canonical

theorem canonical_cons (c : Char) (rest : List Char) : canonical (c :: rest) =
    (takePiece c rest).1.canonical ++ canonical (takePiece c rest).2 := by
  rw [canonical,pieces,List.flatMap_cons]
  rfl

theorem canonical_blanks {run after : List Char} (some : run ≠ []) (blank : ∀ c ∈ run, isBlank c)
    (ends : ∀ c ∈ after.head?, isBlank c = false) :
    canonical (run ++ after) = ' ' :: canonical after := by
  obtain ⟨c,run,rfl⟩ := List.exists_cons_of_ne_nil some
  have further := takeWhile_stops (fun d member => blank d (List.mem_cons_of_mem c member)) ends
  rw [List.cons_append,canonical_cons,takePiece,if_pos (blank c (by simp)),further.2]
  rfl

theorem takePiece_quote {q : Char} (quote : isQuote q) (rest : List Char) :
    takePiece q rest = (.quoted (q :: (splitThrough [q] rest).1),(splitThrough [q] rest).2) := by
  obtain ⟨blank,_,same⟩ := quote_cases quote
  rw [takePiece,if_neg (by simp [blank]),if_pos same]

theorem canonical_quote {q : Char} (quote : isQuote q) (rest : List Char) : canonical (q :: rest) =
    q :: ((splitThrough [q] rest).1 ++ canonical (splitThrough [q] rest).2) := by
  rw [canonical_cons,takePiece_quote quote]
  rfl

theorem splitThrough_mark (q : Char) (rest : List Char) : splitThrough [q] (q :: rest) = ([q],rest) := by
  simp [splitThrough]

theorem splitThrough_other {q c : Char} (differs : c ≠ q) (rest : List Char) :
    splitThrough [q] (c :: rest) = (c :: (splitThrough [q] rest).1,(splitThrough [q] rest).2) := by
  have later : ¬[q].isPrefixOf (c :: rest) = true := by
    simpa [List.isPrefixOf] using Ne.symm differs
  rw [splitThrough,if_neg later]

theorem canonical_closes (quote : isQuote q) (closes : Closes q run) (after : List Char) :
    canonical (q :: (run ++ after)) = q :: (run ++ canonical after) := by
  rw [canonical_quote quote,List.cons.injEq]
  refine ⟨rfl,?_⟩
  induction closes with
  | quote => rw [List.cons_append,splitThrough_mark]; rfl
  | doubled rest ih =>
    rw [List.cons_append,splitThrough_mark]
    exact congrArg (q :: ·) ((canonical_quote quote _).trans (congrArg (q :: ·) ih))
  | other c differs rest ih =>
    rw [List.cons_append,splitThrough_other differs]
    exact congrArg (c :: ·) ih

theorem canonical_open (quote : isQuote q) (opened : Open q s) : canonical (q :: s) = q :: s := by
  rw [canonical_quote quote,List.cons.injEq]
  refine ⟨rfl,?_⟩
  induction opened with
  | nil => simp [splitThrough,canonical,pieces]
  | doubled rest ih =>
    rw [splitThrough_mark]
    exact congrArg (q :: ·) ((canonical_quote quote _).trans (congrArg (q :: ·) ih))
  | other c differs rest ih =>
    rw [splitThrough_other differs]
    exact congrArg (c :: ·) ih

theorem splitThrough_eq (mark s : List Char) :
    splitThrough mark s = (through? mark s).getD (s,[]) := by
  induction s with
  | nil => rfl
  | cons c rest ih =>
    rw [splitThrough,through?,ih]
    split
    · rfl
    · cases through? mark rest <;> rfl

theorem splitThrough_append (mark s : List Char) :
    (splitThrough mark s).1 ++ (splitThrough mark s).2 = s := by
  induction s with
  | nil => rfl
  | cons c rest ih =>
    rw [splitThrough]
    split
    · rename_i leads
      obtain ⟨after,same⟩ := List.isPrefixOf_iff_prefix.mp leads
      rw [← same,List.drop_left]
    · exact congrArg (c :: ·) ih

theorem ascii_of_alphanum {c : Char} (word : c.isAlphanum) : c.toNat < 128 := by
  rw [isAlphanum_iff,isAlpha_iff,isDigit_iff] at word
  omega

theorem isTagRest_iff {c : Char} : isTagRest c ↔ inTag c ∧ c.toNat < 128 := by
  simp only [isTagRest,inTag,Bool.or_eq_true,Bool.and_eq_true,beq_iff_eq,decide_eq_true_eq]
  constructor
  · rintro (word | rfl)
    · exact ⟨.inl (.inl word),ascii_of_alphanum word⟩
    · decide
  · rintro ⟨named | ⟨high,_⟩,low⟩
    · exact named
    · omega

theorem isTagStart_iff {c : Char} : isTagStart c ↔ isTagRest c ∧ c.isDigit = false := by
  have letter : c.isAlpha = true → c.isDigit = false := by
    rw [← Bool.not_eq_true,isAlpha_iff,isDigit_iff]
    omega
  simp only [isTagStart,isTagRest,isAlphanum_iff,Bool.or_eq_true,beq_iff_eq]
  constructor
  · rintro (starts | rfl)
    · exact ⟨.inl (.inl starts),letter starts⟩
    · decide
  · rintro ⟨(starts | digit) | same,other⟩
    · exact .inl starts
    · rw [digit] at other
      cases other
    · exact .inr same

theorem isTagName_iff {tag : List Char} : isTagName tag ↔ IsTag tag ∧ ∀ c ∈ tag, c.toNat < 128 := by
  cases tag with
  | nil => simp [isTagName,IsTag]
  | cons c rest =>
    simp only [isTagName,Bool.and_eq_true,List.all_eq_true,isTagStart_iff,isTagRest_iff,IsTag,
      List.mem_cons,List.head?_cons,Option.mem_def,Option.some.injEq]
    constructor
    · rintro ⟨⟨⟨inside,low⟩,digit⟩,further⟩
      refine ⟨⟨?_,by simpa using digit⟩,?_⟩
      · rintro d (rfl | member)
        · exact inside
        · exact (further d member).1
      · rintro d (rfl | member)
        · exact low
        · exact (further d member).2
    · rintro ⟨⟨inside,digit⟩,low⟩
      exact ⟨⟨⟨inside c (.inl rfl),low c (.inl rfl)⟩,digit c rfl⟩,
        fun d member => ⟨inside d (.inr member),low d (.inr member)⟩⟩

theorem dollarTag?_eq_some : dollarTag? s = some (mark,body) ↔
    ∃ tag, s = tag ++ '$' :: body ∧ mark = signed tag ∧ isTagName tag := by
  constructor
  · intro found
    have parts := List.takeWhile_append_dropWhile (p := (· != '$')) (l := s)
    simp only [dollarTag?] at found
    split at found
    · rename_i d rest remains
      split at found
      · rename_i named
        cases found
        have sign : d = '$' := by
          have ended := head_dropWhile (p := (· != '$')) (s := s) d (by rw [remains]; rfl)
          simpa using ended
        rw [remains,sign] at parts
        exact ⟨_,parts.symm,rfl,named⟩
      · cases found
    · cases found
  · rintro ⟨tag,rfl,rfl,named⟩
    have inside : ∀ c ∈ tag, (c != '$') = true := by
      intro c member
      refine bne_iff_ne.mpr ?_
      rintro rfl
      exact absurd ((isTagName_iff.mp named).1.1 '$' member) (by decide)
    have ends : ∀ c ∈ ('$' :: body).head?, (c != '$') = false := by simp
    obtain ⟨taken,dropped⟩ := takeWhile_stops inside ends
    simp only [dollarTag?,taken,dropped]
    rw [if_pos named]
    rfl

theorem takePiece_blank {c : Char} (blank : isBlank c) (rest : List Char) :
    (takePiece c rest).1.canonical = [' '] := by
  rw [takePiece,if_pos blank]
  rfl

theorem takePiece_plain {c : Char} (plain : isBlank c = false) (rest : List Char) :
    (takePiece c rest).1.canonical ++ (takePiece c rest).2 = c :: rest := by
  rw [takePiece,if_neg (by simp [plain])]
  split
  · exact congrArg (c :: ·) (splitThrough_append [c] rest)
  split
  · rename_i sign
    subst sign
    split
    · rename_i mark body found
      obtain ⟨tag,rfl,rfl,_⟩ := dollarTag?_eq_some.mp found
      simp only [Piece.canonical,Piece.source]
      rw [List.append_assoc,splitThrough_append,signed_append]
    · rfl
  · rfl

theorem meets_canonical (s : List Char) : Meets s (canonical s) := by
  induction s using pieces.induct with
  | case1 => exact .apart (by simp) (by simp [canonical,pieces])
  | case2 c rest ih =>
    rw [canonical_cons]
    cases blank : isBlank c with
    | true =>
      rw [takePiece_blank blank]
      exact .apart (by simpa using blank) (by simp; decide)
    | false =>
      have whole := ih.append (takePiece c rest).1.canonical
      rwa [takePiece_plain blank] at whole

theorem canonical_fragment {c : Char} (blank : isBlank c = false) (quote : isQuote c = false)
    (sign : c = '$' → tag? after = none) : canonical (c :: after) = c :: canonical after := by
  have apart : ¬(c = '\'' ∨ c = '"') := by simpa [isQuote] using quote
  rw [canonical_cons,takePiece,if_neg (by simp [blank]),if_neg apart]
  split
  · rename_i same
    cases found : dollarTag? after with
    | none => rfl
    | some both =>
      obtain ⟨mark,body⟩ := both
      obtain ⟨tag,rfl,_,named⟩ := dollarTag?_eq_some.mp found
      have opened : tag? (tag ++ '$' :: body) = some (tag,body) :=
        tag?_eq_some.mpr ⟨rfl,(isTagName_iff.mp named).1⟩
      rw [sign same] at opened
      cases opened
  · rfl

theorem canonical_signed {tag : List Char} (named : IsTag tag) (ascii : ∀ c ∈ tag, c.toNat < 128)
    (body : List Char) : canonical (signed tag ++ body) = signed tag ++
      ((splitThrough (signed tag) body).1 ++ canonical (splitThrough (signed tag) body).2) := by
  have found : dollarTag? (tag ++ '$' :: body) = some (signed tag,body) :=
    dollarTag?_eq_some.mpr ⟨tag,rfl,rfl,isTagName_iff.mpr ⟨named,ascii⟩⟩
  rw [signed_append,canonical_cons,takePiece,if_neg (by decide),if_neg (by decide),if_pos rfl,found,
    ← List.append_assoc]
  rfl

-- Where a text stands in which there are only blanks and comments: outside a comment, after the first
-- dash of one, or in one.
inductive Place where
  | outside | dash | inside
  deriving DecidableEq

def Place.next (c : Char) : Place → Option Place
  | .outside => if isBlank c then some .outside else if c = '-' then some .dash else none
  | .dash => if c = '-' then some .inside else none
  | .inside => some (if inLine c then .inside else .outside)

def silentFrom (place : Place) : List Char → Bool
  | [] => place != .dash
  | c :: rest => (place.next c).any fun later => silentFrom later rest

theorem silentFrom_cons {place : Place} : silentFrom place (c :: rest) ↔
    ∃ later, place.next c = some later ∧ silentFrom later rest := by
  rw [silentFrom]
  cases place.next c <;> simp

theorem silentFrom_blank {c : Char} (blank : isBlank c) (rest : List Char) :
    silentFrom .outside (c :: rest) = silentFrom .outside rest := by
  rw [silentFrom,Place.next,if_pos blank]
  rfl

theorem silentFrom_blanks {run : List Char} (blank : ∀ c ∈ run, isBlank c) (after : List Char) :
    silentFrom .outside (run ++ after) = silentFrom .outside after := by
  induction run with
  | nil => rfl
  | cons c run ih =>
    rw [List.cons_append,silentFrom_blank (blank c (by simp))]
    exact ih fun d member => blank d (List.mem_cons_of_mem c member)

theorem isBlank_of_ends {c : Char} (ends : inLine c = false) : isBlank c := by
  simp only [inLine,Bool.and_eq_false_iff,bne_eq_false_iff_eq] at ends
  rcases ends with rfl | rfl <;> decide

theorem silentFrom_line {run after : List Char} (line : ∀ c ∈ run, inLine c)
    (ends : ∀ c ∈ after.head?, inLine c = false) :
    silentFrom .inside (run ++ after) = silentFrom .outside after := by
  induction run with
  | nil =>
    cases after with
    | nil => rfl
    | cons c rest =>
      have ended := ends c rfl
      rw [silentFrom_blank (isBlank_of_ends ended)]
      simp [silentFrom,Place.next,ended]
  | cons c run ih =>
    rw [List.cons_append,silentFrom,Place.next,if_pos (line c (by simp))]
    exact ih fun d member => line d (List.mem_cons_of_mem c member)

theorem silentFrom_outside (s : List Char) :
    (lexemes s).all Lexeme.isSilent = silentFrom .outside s := by
  induction s using lexeme_induction with
  | nil => simp [lexemes,silentFrom]
  | @step s l after taken ih =>
    rw [taken.lexemes,List.all_cons,ih]
    cases taken with
    | blanks some blank ends => rw [silentFrom_blanks blank]; rfl
    | comment line ends => exact (silentFrom_line line ends).symm
    | quoted quote | openQuote quote =>
      obtain ⟨blank,dash,_⟩ := quote_cases quote
      simp [silentFrom,Place.next,blank,dash,Lexeme.isSilent]
    | dollarQuoted | openTag => rw [signed_append]; rfl
    | @fragment c _ blank quote dashes sign =>
      refine (Bool.eq_false_iff.mpr fun silent => ?_).symm
      obtain ⟨later,moved,silent⟩ := silentFrom_cons.mp silent
      rw [Place.next,if_neg (by simp [blank])] at moved
      split at moved
      · rename_i dash
        cases moved
        cases after with
        | nil => cases silent
        | cons d rest =>
          have second : d ≠ '-' := by simpa using dashes dash
          simp [silentFrom,Place.next,second] at silent
      · cases moved

-- Whatever goes on from elsewhere goes on in a comment.
theorem silentFrom_inside {place : Place} (silent : silentFrom place s) : silentFrom .inside s := by
  induction s generalizing place with
  | nil => rfl
  | cons c rest ih =>
    obtain ⟨later,moved,silent⟩ := silentFrom_cons.mp silent
    change silentFrom (if inLine c then .inside else .outside) rest
    split
    · exact ih silent
    · rename_i ends
      have blank := isBlank_of_ends (by simpa using ends)
      cases place with
      | outside =>
        rw [Place.next,if_pos blank] at moved
        cases moved
        exact silent
      | dash =>
        have other : c ≠ '-' := by rintro rfl; cases blank
        rw [Place.next,if_neg other] at moved
        cases moved
      | inside =>
        rw [Place.next,if_neg ends] at moved
        cases moved
        exact silent

theorem silentFrom_after {place : Place} (run : List Char) (silent : silentFrom place (run ++ after)) :
    ∃ later, silentFrom later after := by
  induction run generalizing place with
  | nil => exact ⟨place,silent⟩
  | cons c run ih =>
    obtain ⟨later,_,silent⟩ := silentFrom_cons.mp silent
    exact ih silent

theorem silentFrom_append {s t : List Char} (each : ∀ place, silentFrom place s → silentFrom place t)
    (run : List Char) (place : Place) (silent : silentFrom place (run ++ s)) :
    silentFrom place (run ++ t) := by
  induction run generalizing place with
  | nil => exact each place silent
  | cons c run ih =>
    obtain ⟨later,moved,silent⟩ := silentFrom_cons.mp silent
    exact silentFrom_cons.mpr ⟨later,moved,ih later silent⟩

-- Where a line of the text has ended, its canonical form may still be in a comment.
theorem silentFrom_canonical (s : List Char) (place : Place) (silent : silentFrom place s) :
    silentFrom place (canonical s) := by
  induction s using pieces.induct generalizing place with
  | case1 => simpa [canonical,pieces] using silent
  | case2 c rest ih =>
    rw [canonical_cons]
    cases blank : isBlank c with
    | false =>
      rw [← takePiece_plain blank rest] at silent
      exact silentFrom_append ih _ place silent
    | true =>
      have run : ∀ d ∈ c :: rest.takeWhile isBlank, isBlank d := by
        intro d member
        rcases List.mem_cons.mp member with rfl | inside
        · exact blank
        · exact List.all_eq_true.mp List.all_takeWhile d inside
      have whole : c :: rest = (c :: rest.takeWhile isBlank) ++ rest.dropWhile isBlank := by
        rw [List.cons_append,List.takeWhile_append_dropWhile]
      have remains : (takePiece c rest).2 = rest.dropWhile isBlank := by
        rw [takePiece,if_pos blank]
      rw [takePiece_blank blank,remains,List.singleton_append]
      rw [remains] at ih
      cases place with
      | outside =>
        rw [whole,silentFrom_blanks run] at silent
        rw [silentFrom_blank (by decide)]
        exact ih .outside silent
      | dash =>
        obtain ⟨_,moved,_⟩ := silentFrom_cons.mp silent
        have other : c ≠ '-' := by rintro rfl; cases blank
        rw [Place.next,if_neg other] at moved
        cases moved
      | inside =>
        rw [whole] at silent
        obtain ⟨later,silent⟩ := silentFrom_after _ silent
        exact silentFrom_cons.mpr ⟨.inside,by decide,ih .inside (silentFrom_inside silent)⟩

theorem canonical_nil : canonical [] = [] := by simp [canonical,pieces]

theorem canonical_alike {s : List Char} (holds : regular (lexemes s)) :
    ReadAlike (lexemes (canonical s)) (lexemes s) := by
  induction s using lexeme_induction with
  | nil => rw [canonical_nil,lexemes]; exact .silent (by simp) (by simp)
  | @step s l after taken ih =>
    have meets := meets_canonical after
    have read := taken.lexemes
    have kept (solid : l.isSilent = false ∧ l.isUnclosed = false)
        (same : canonical s = l.source ++ canonical after) (rest : regular (lexemes after)) :
        ReadAlike (lexemes (canonical s)) (lexemes s) := by
      rw [same,(taken.meets solid meets).lexemes,read]
      exact .next l (ih rest)
    rw [read] at holds
    cases taken with
    | blanks some blank ends =>
      have first : ∀ c ∈ (canonical after).head?, isBlank c = false := by
        cases after with
        | nil => simp [canonical_nil]
        | cons d rest =>
          rw [meets.symm.head?_of_plain (ends d rfl) rfl]
          exact ends
      have space : ∀ c ∈ [' '], isBlank c = true := List.forall_mem_singleton.mpr rfl
      have taken : Takes ([' '] ++ canonical after) _ _ :=
        .blanks (List.cons_ne_nil _ _) space first
      rw [canonical_blanks some blank ends,← List.singleton_append,taken.lexemes,read]
      exact .blanks _ _ (ih holds)
    | @comment run _ line ends =>
      have silent : (lexemes ('-' :: '-' :: (run ++ after))).all Lexeme.isSilent := by
        rw [read]
        exact holds
      have further := silentFrom_canonical _ .outside ((silentFrom_outside _).symm.trans silent)
      have stays := (silentFrom_outside _).trans further
      exact .silent (List.all_eq_true.mp stays) (List.all_eq_true.mp silent)
    | quoted quote closes undoubled =>
      exact kept ⟨rfl,rfl⟩ (canonical_closes quote closes after) holds
    | openQuote quote opened =>
      rw [canonical_open quote opened,read]
      exact .next _ (.silent (by simp [lexemes]) (by simp [lexemes]))
    | @dollarQuoted tag run _ named reaches =>
      simp only [regular,Lexeme.tag,Bool.and_eq_true,List.all_eq_true,decide_eq_true_eq] at holds
      refine kept ⟨rfl,rfl⟩ ?_ holds.2
      rw [canonical_signed named holds.1,splitThrough_eq,reaches.through? (by simp [signed])]
      exact (List.append_assoc _ _ _).symm
    | @openTag tag s named lacks =>
      simp only [regular,Lexeme.tag,Bool.and_eq_true,List.all_eq_true,decide_eq_true_eq] at holds
      rw [canonical_signed named holds.1,splitThrough_eq,through?_eq_none lacks,Option.getD_none,
        canonical_nil,List.append_nil,read]
      exact .next _ (.silent (by simp [lexemes]) (by simp [lexemes]))
    | fragment blank quote dashes sign =>
      exact kept ⟨rfl,rfl⟩ (canonical_fragment blank quote sign) holds

theorem read_canonicalSql {sql : String} (holds : Regular sql) : read (canonicalSql sql) = read sql := by
  obtain ⟨trimmed,same⟩ := trim_alike sql.toList
  have alike := canonical_alike (same.trans holds)
  rw [Lexical.read,Lexical.read,← trimmed,canonicalSql,String.toList_ofList]
  exact congrArg (Option.map gathered) alike.words_eq

-- One key for two statements is one model, the same values and a text that reads the same.
theorem same_key_reads_same {a b : String} (first : Regular a) (second : Regular b) :
    (canonicalSql a = canonicalSql b → read a = read b) ∧
      ∀ model other params others, Key.of model a params = Key.of other b others →
        model = other ∧ params = others ∧ read a = read b := by
  have reads : canonicalSql a = canonicalSql b → read a = read b := by
    intro same
    rw [← read_canonicalSql first,← read_canonicalSql second,same]
  refine ⟨reads,fun model other params others same => ?_⟩
  rw [Key.of,Key.of,Key.mk.injEq] at same
  exact ⟨same.1,same.2.2,reads same.2.1⟩

-- Blanks are put differently between the words, and both texts end in a comment.
theorem same_key_reads_same_spaced :
    Key.of "User" "SELECT  'a''  b',\n$f$ c  d $f$ -- all \n" [.int 1] =
      Key.of "User" " SELECT 'a''  b', $f$ c  d $f$ -- all" [.int 1] ∧
      Lexical.read "SELECT  'a''  b',\n$f$ c  d $f$ -- all \n" =
        Lexical.read " SELECT 'a''  b', $f$ c  d $f$ -- all" := by
  have first : Regular "SELECT  'a''  b',\n$f$ c  d $f$ -- all \n" := by unfold Regular; decide +kernel
  have second : Regular " SELECT 'a''  b', $f$ c  d $f$ -- all" := by unfold Regular; decide +kernel
  have text : canonicalSql "SELECT  'a''  b',\n$f$ c  d $f$ -- all \n" =
      canonicalSql " SELECT 'a''  b', $f$ c  d $f$ -- all" := by decide +kernel
  have same : Key.of "User" "SELECT  'a''  b',\n$f$ c  d $f$ -- all \n" [.int 1] =
      Key.of "User" " SELECT 'a''  b', $f$ c  d $f$ -- all" [.int 1] := by rw [Key.of,Key.of,text]
  exact ⟨same,((same_key_reads_same first second).2 "User" "User" [.int 1] [.int 1] same).2.2⟩

-- With the end of its line a space, the comment takes in the condition.
theorem not_always_same_reading : ¬∀ a b, canonicalSql a = canonicalSql b → read a = read b := by
  intro always
  have same : canonicalSql "SELECT id FROM users -- all\nWHERE age > 18" =
      canonicalSql "SELECT id FROM users -- all WHERE age > 18" := by decide +kernel
  have differs : read "SELECT id FROM users -- all\nWHERE age > 18" ≠
      read "SELECT id FROM users -- all WHERE age > 18" := by decide +kernel
  exact differs (always _ _ same)

end DataAccess.Cache
