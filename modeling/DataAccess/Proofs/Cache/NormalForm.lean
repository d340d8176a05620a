import DataAccess.Proofs.Cache.SameReading
import DataAccess.Proofs.Text.Ends

-- The canonical text as a normal form. How a text is taken apart is told by rules, which leave one
-- way to do it; the canonical text is taken apart into the same pieces, but that each run of blanks
-- is one space. So it is its own canonical text, and texts have it in common if they differ in
-- their blanks only.
namespace DataAccess.Cache
open Text (isBlank)
open Lexical

-- What a text begins with, and what comes after it: all the blanks that there are, a quote through the
-- next one like it, a tag through the next one like it, or one character. What is not closed goes on to
-- the end of the text.
inductive Begins : List Char → Piece → List Char → Prop
  | blanks (some : run ≠ []) (blank : ∀ c ∈ run, isBlank c)
      (ends : ∀ c ∈ after.head?, isBlank c = false) : Begins (run ++ after) (.blanks run) after
  | quoted (quote : isQuote q) (inside : q ∉ run) :
      Begins (q :: (run ++ q :: after)) (.quoted (q :: (run ++ [q]))) after
  | openQuote (quote : isQuote q) (inside : q ∉ run) : Begins (q :: run) (.quoted (q :: run)) []
  | dollarQuoted (named : isTagName tag) (reaches : Reaches (signed tag) run) :
      Begins (signed tag ++ (run ++ after)) (.dollarQuoted (signed tag ++ run)) after
  | openTag (named : isTagName tag) (lacks : ¬signed tag <:+: run) :
      Begins (signed tag ++ run) (.dollarQuoted (signed tag ++ run)) []
  | single (blank : isBlank c = false) (quote : isQuote c = false)
      (sign : c = '$' → ∀ tag body, isTagName tag → after ≠ tag ++ '$' :: body) :
      Begins (c :: after) (.single c) after

-- A text and the pieces that it is taken apart into.
inductive Cut : List Char → List Piece → Prop
  | nil : Cut [] []
  | cons (begins : Begins s p after) (rest : Cut after ps) : Cut s (p :: ps)

theorem splitThrough_inside {q : Char} {run : List Char} (inside : q ∉ run) :
    splitThrough [q] run = (run,[]) ∧
      ∀ after, splitThrough [q] (run ++ q :: after) = (run ++ [q],after) := by
  induction run with
  | nil => exact ⟨rfl,splitThrough_mark q⟩
  | cons c run ih =>
    rw [List.mem_cons,not_or] at inside
    obtain ⟨ended,followed⟩ := ih inside.2
    refine ⟨?_,fun after => ?_⟩
    · rw [splitThrough_other (Ne.symm inside.1),ended]
    · rw [List.cons_append,splitThrough_other (Ne.symm inside.1),followed]
      rfl

theorem takePiece_signed {tag : List Char} (named : isTagName tag) (body : List Char) :
    takePiece '$' (tag ++ '$' :: body) = (.dollarQuoted (signed tag ++ (splitThrough (signed tag) body).1),
      (splitThrough (signed tag) body).2) := by
  have found : dollarTag? (tag ++ '$' :: body) = some (signed tag,body) :=
    dollarTag?_eq_some.mpr ⟨tag,rfl,rfl,named⟩
  rw [takePiece,if_neg (by decide),if_neg (by decide),if_pos rfl,found]

namespace Begins

theorem source (begins : Begins s p after) : s = p.source ++ after := by
  cases begins with
  | blanks | single => rfl
  | quoted => simp [Piece.source]
  | openQuote | openTag => exact (List.append_nil _).symm
  | dollarQuoted => exact (List.append_assoc _ _ _).symm

-- The rules leave one thing to begin with.
theorem taken (begins : Begins s p after) : ∃ c rest, s = c :: rest ∧ takePiece c rest = (p,after) := by
  cases begins with
  | @blanks run _ some blank ends =>
    obtain ⟨c,run,rfl⟩ := List.exists_cons_of_ne_nil some
    have further := takeWhile_stops (fun d member => blank d (List.mem_cons_of_mem c member)) ends
    refine ⟨c,run ++ after,rfl,?_⟩
    rw [takePiece,if_pos (blank c (by simp)),further.1,further.2]
  | @quoted q run _ quote inside =>
    refine ⟨q,run ++ q :: after,rfl,?_⟩
    rw [takePiece_quote quote,(splitThrough_inside inside).2]
  | @openQuote q run quote inside =>
    refine ⟨q,run,rfl,?_⟩
    rw [takePiece_quote quote,(splitThrough_inside inside).1]
  | @dollarQuoted tag run _ named reaches =>
    refine ⟨'$',tag ++ '$' :: (run ++ after),signed_append _ _,?_⟩
    rw [takePiece_signed named,splitThrough_eq,reaches.through? (by simp [signed])]
    rfl
  | @openTag tag run named lacks =>
    refine ⟨'$',tag ++ '$' :: run,signed_append _ _,?_⟩
    rw [takePiece_signed named,splitThrough_eq,through?_eq_none lacks]
    rfl
  | @single c _ blank quote sign =>
    have apart : ¬(c = '\'' ∨ c = '"') := by simpa [isQuote] using quote
    refine ⟨c,after,rfl,?_⟩
    rw [takePiece,if_neg (by simp [blank]),if_neg apart]
    split
    · rename_i same
      cases found : dollarTag? after with
      | none => rfl
      | some both =>
        obtain ⟨tag,split,_,named⟩ := dollarTag?_eq_some.mp found
        exact absurd split (sign same tag _ named)
    · rfl

theorem pieces_eq (begins : Begins s p after) : pieces s = p :: pieces after := by
  obtain ⟨c,rest,rfl,same⟩ := begins.taken
  rw [pieces,same]

theorem canonical_eq (begins : Begins s p after) : canonical s = p.canonical ++ canonical after := by
  rw [canonical,begins.pieces_eq,List.flatMap_cons]
  rfl

end Begins

-- They leave nothing out.
theorem exists_begins (c : Char) (rest : List Char) : ∃ p after, Begins (c :: rest) p after := by
  by_cases blank : isBlank c = true
  · have run : ∀ d ∈ c :: rest.takeWhile isBlank, isBlank d = true := by
      intro d member
      rcases List.mem_cons.mp member with rfl | inside
      · exact blank
      · exact List.all_eq_true.mp List.all_takeWhile d inside
    have begins := Begins.blanks (by simp) run (head_dropWhile (s := rest))
    rw [List.cons_append,List.takeWhile_append_dropWhile] at begins
    exact ⟨_,_,begins⟩
  by_cases quote : isQuote c = true
  · by_cases closed : c ∈ rest
    · obtain ⟨run,after,rfl,inside⟩ := List.eq_append_cons_of_mem closed
      exact ⟨_,_,.quoted quote inside⟩
    · exact ⟨_,_,.openQuote quote closed⟩
  by_cases tagged : c = '$' ∧ ∃ tag body, isTagName tag ∧ rest = tag ++ '$' :: body
  · obtain ⟨rfl,tag,body,named,rfl⟩ := tagged
    rw [← signed_append]
    rcases reaches_or_lacks (signed tag) body with ⟨run,after,rfl,reaches⟩ | lacks
    · exact ⟨_,_,.dollarQuoted named reaches⟩
    · exact ⟨_,_,.openTag named lacks⟩
  · refine ⟨_,_,.single (by simpa using blank) (by simpa using quote) fun sign tag body named same => ?_⟩
    exact tagged ⟨sign,tag,body,named,same⟩

-- Text is taken apart one piece after the other.
theorem piece_induction {motive : List Char → Prop} (nil : motive [])
    (step : ∀ {s p after}, Begins s p after → motive after → motive s) (s : List Char) : motive s := by
  induction s using pieces.induct with
  | case1 => exact nil
  | case2 c rest ih =>
    obtain ⟨p,after,begins⟩ := exists_begins c rest
    obtain ⟨d,more,same,taken⟩ := begins.taken
    cases same
    rw [taken] at ih
    exact step begins ih

theorem cut_pieces (s : List Char) : Cut s (pieces s) := by
  induction s using piece_induction with
  | nil =>
    rw [pieces]
    exact .nil
  | step begins rest =>
    rw [begins.pieces_eq]
    exact .cons begins rest

theorem Cut.unique (cut : Cut s ps) : ps = pieces s := by
  induction cut with
  | nil => rw [pieces]
  | cons begins rest ih => rw [begins.pieces_eq,ih]

theorem cut_iff : Cut s ps ↔ ps = pieces s := by
  constructor
  · exact Cut.unique
  · rintro rfl
    exact cut_pieces s

namespace Piece

def collapsed : Piece → Piece
  | blanks _ => blanks [' ']
  | piece => piece

-- Pieces that are the same, or differ in their blanks only.
inductive Alike : Piece → Piece → Prop
  | blanks (run other : List Char) : Alike (blanks run) (blanks other)
  | same (piece : Piece) : Alike piece piece

theorem collapsed_source (p : Piece) : p.collapsed.source = p.canonical := by cases p <;> rfl

theorem Alike.symm (alike : Alike p q) : Alike q p := by
  cases alike with
  | blanks run other => exact .blanks other run
  | same => exact .same p

theorem Alike.trans (first : Alike p q) (second : Alike q r) : Alike p r := by
  cases first with
  | same => exact second
  | blanks run middle =>
    cases second with
    | blanks _ other => exact .blanks run other
    | same => exact .blanks run middle

theorem alike_collapsed (p : Piece) : Alike p p.collapsed := by
  cases p with
  | blanks run => exact .blanks run [' ']
  | _ => exact .same _

theorem alike_iff {p q : Piece} : Alike p q ↔ p.collapsed = q.collapsed := by
  constructor
  · intro alike
    cases alike <;> rfl
  · intro same
    have left := p.alike_collapsed
    rw [same] at left
    exact left.trans q.alike_collapsed.symm

theorem allAlike_iff {ps qs : List Piece} :
    List.Forall₂ Alike ps qs ↔ ps.map collapsed = qs.map collapsed := by
  induction ps generalizing qs with
  | nil =>
    cases qs with
    | nil => exact iff_of_true .nil rfl
    | cons q qs => exact iff_of_false nofun nofun
  | cons p ps ih =>
    cases qs with
    | nil => exact iff_of_false nofun nofun
    | cons q qs => simp [ih,alike_iff]

end Piece

theorem canonical_sources (s : List Char) :
    canonical s = ((pieces s).map Piece.collapsed).flatMap Piece.source := by
  rw [canonical,List.flatMap_map]
  exact List.flatMap_congr fun p _ => p.collapsed_source.symm

-- Where a text does not begin with a blank, its canonical form begins as it does.
theorem canonical_starts {s : List Char} (starts : ∀ c ∈ s.head?, isBlank c = false) :
    (canonical s).head? = s.head? := by
  cases s with
  | nil => rw [canonical_nil]
  | cons c rest => exact (meets_canonical _).symm.head?_of_plain (starts c rfl) rfl

theorem canonical_ends {s : List Char} (ends : ∀ c ∈ s.getLast?, isBlank c = false) :
    (canonical s).getLast? = s.getLast? := by
  induction s using piece_induction with
  | nil => rw [canonical_nil]
  | @step s p after begins ih =>
    have source := begins.source
    rw [begins.canonical_eq,source,List.getLast?_append,List.getLast?_append]
    rw [source,List.getLast?_append] at ends
    rw [ih fun c last => ends c (by rw [Option.mem_def.mp last]; rfl)]
    cases last : after.getLast? with
    | some c => rfl
    | none =>
      rw [last,Option.none_or] at ends
      cases begins with
      | @blanks run _ some blank =>
        have seen := ends _ (List.getLast?_eq_some_getLast some)
        rw [blank _ (List.getLast_mem some)] at seen
        cases seen
      | _ => rfl

-- The canonical form begins with the piece that the text begins with: no tag begins in it that did not
-- begin before, since there is no blank in a tag.
theorem Begins.again (begins : Begins s p after) :
    Begins (p.canonical ++ canonical after) p.collapsed (canonical after) := by
  have meets := meets_canonical after
  cases begins with
  | blanks some blank ends =>
    refine .blanks (List.cons_ne_nil _ _) (List.forall_mem_singleton.mpr rfl) ?_
    rwa [canonical_starts ends]
  | @quoted q run _ quote inside =>
    have begins : Begins (q :: (run ++ q :: canonical after)) _ _ := .quoted quote inside
    rwa [List.append_cons] at begins
  | openQuote quote inside =>
    rw [canonical_nil,List.append_nil]
    exact .openQuote quote inside
  | @dollarQuoted tag run _ named reaches =>
    have begins : Begins (signed tag ++ (run ++ canonical after)) _ _ := .dollarQuoted named reaches
    rwa [← List.append_assoc] at begins
  | openTag named lacks =>
    rw [canonical_nil,List.append_nil]
    exact .openTag named lacks
  | single blank quote sign =>
    refine .single blank quote fun same tag body named split => ?_
    have plain : ∀ c ∈ tag ++ ['$'], isBlank c = false := by
      intro c member
      rcases List.mem_append.mp member with inside | last
      · exact isBlank_of_inTag ((isTagName_iff.mp named).1.1 c inside)
      · cases List.mem_singleton.mp last
        decide
    have split : canonical after = tag ++ '$' :: body := split
    rw [split,List.append_cons] at meets
    obtain ⟨rest,shared⟩ := meets.symm.exists_rest plain
    exact sign same tag rest named (shared.trans (List.append_cons _ _ _).symm)

-- The canonical form is taken apart as the text was.
theorem pieces_canonical (s : List Char) : pieces (canonical s) = (pieces s).map Piece.collapsed := by
  induction s using piece_induction with
  | nil => rw [canonical_nil,pieces,List.map_nil]
  | step begins ih => rw [begins.canonical_eq,begins.again.pieces_eq,begins.pieces_eq,ih,List.map_cons]

theorem canonical_canonical (s : List Char) : canonical (canonical s) = canonical s := by
  have twice (p : Piece) : p.collapsed.collapsed = p.collapsed := by cases p <;> rfl
  rw [canonical_sources,pieces_canonical,List.map_map,canonical_sources s]
  exact congrArg _ (List.map_congr_left fun p _ => twice p)

theorem canonical_trimmed (trimmed : Text.Trimmed s) : Text.Trimmed (canonical s) :=
  ⟨by rw [canonical_starts trimmed.starts]; exact trimmed.starts,
    by rw [canonical_ends trimmed.ends]; exact trimmed.ends⟩

theorem canonicalSql_toList (sql : String) :
    (canonicalSql sql).toList = canonical (Text.trim sql.toList) := String.toList_ofList

-- The canonical text of a statement is put together from the pieces of the statement, with one space
-- for each run of blanks. It is taken apart into these pieces again and is its own canonical text; and
-- statements have it in common just when their pieces are alike.
theorem canonicalSql_normal_form (sql : String) : ∃ ps,
    (∀ qs, Cut (Text.trim sql.toList) qs ↔ qs = ps) ∧
    (canonicalSql sql).toList = ps.flatMap Piece.canonical ∧
    Text.trim (canonicalSql sql).toList = (canonicalSql sql).toList ∧
    (∀ qs, Cut (canonicalSql sql).toList qs ↔ qs = ps.map Piece.collapsed) ∧
    canonicalSql (canonicalSql sql) = canonicalSql sql ∧
    ∀ other, canonicalSql sql = canonicalSql other ↔
      ∃ qs, Cut (Text.trim other.toList) qs ∧ List.Forall₂ Piece.Alike ps qs := by
  have trimmed := (canonical_trimmed (Text.trim_trimmed sql.toList)).trim
  rw [← canonicalSql_toList] at trimmed
  refine ⟨pieces (Text.trim sql.toList),fun qs => cut_iff,canonicalSql_toList sql,trimmed,?_,?_,?_⟩
  · intro qs
    rw [canonicalSql_toList,cut_iff,pieces_canonical]
  · apply String.toList_injective
    rw [canonicalSql_toList,trimmed,canonicalSql_toList,canonical_canonical]
  · intro other
    rw [← String.toList_inj,canonicalSql_toList,canonicalSql_toList]
    constructor
    · intro same
      refine ⟨_,cut_pieces _,Piece.allAlike_iff.mpr ?_⟩
      rw [← pieces_canonical,← pieces_canonical,same]
    · rintro ⟨qs,cut,alike⟩
      rw [canonical_sources,canonical_sources,← cut.unique,Piece.allAlike_iff.mp alike]

end DataAccess.Cache
