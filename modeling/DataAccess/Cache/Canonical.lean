import DataAccess.Text.Blank

-- The canonical form of SQL text. A text without the blanks at its ends is taken apart into runs of
-- blanks, texts that stand as they are, and single characters; in the canonical form every run of
-- blanks is one space. Texts between quotes, and bodies between two dollar tags, stand as they are.
namespace DataAccess.Cache

inductive Piece where
  | blanks (run : List Char)
  | quoted (run : List Char)
  | dollarQuoted (run : List Char)
  | single (c : Char)
  deriving DecidableEq, Repr

namespace Piece

def source : Piece → List Char
  | blanks run | quoted run | dollarQuoted run => run
  | single c => [c]

def canonical : Piece → List Char
  | blanks _ => [' ']
  | piece => piece.source

end Piece

def splitThrough (mark : List Char) : List Char → List Char × List Char
  | [] => ([],[])
  | c :: rest =>
    if mark.isPrefixOf (c :: rest) then (mark,(c :: rest).drop mark.length)
    else
      let (before,after) := splitThrough mark rest
      (c :: before,after)

def isTagStart (c : Char) : Bool := c.isAlpha || c == '_'

def isTagRest (c : Char) : Bool := c.isAlphanum || c == '_'

def isTagName : List Char → Bool
  | [] => true
  | c :: rest => isTagStart c && rest.all isTagRest

-- The tag that a dollar sign begins, and what follows it, given the text after the sign.
def dollarTag? (afterSign : List Char) : Option (List Char × List Char) :=
  let name := afterSign.takeWhile (· != '$')
  match afterSign.dropWhile (· != '$') with
  | _ :: rest => if isTagName name then some ('$' :: name ++ ['$'],rest) else none
  | [] => none

def takePiece (c : Char) (rest : List Char) : Piece × List Char :=
  if Text.isBlank c then (.blanks (c :: rest.takeWhile Text.isBlank),rest.dropWhile Text.isBlank)
  else if c = '\'' ∨ c = '"' then
    let (run,after) := splitThrough [c] rest
    (.quoted (c :: run),after)
  else if c = '$' then
    match dollarTag? rest with
    | some (tag,body) =>
      let (run,after) := splitThrough tag body
      (.dollarQuoted (tag ++ run),after)
    | none => (.single c,rest)
  else (.single c,rest)

theorem splitThrough_length_le (mark s : List Char) : (splitThrough mark s).2.length ≤ s.length := by
  induction s with
  | nil => simp [splitThrough]
  | cons c rest ih =>
    simp only [splitThrough]
    split
    · simp
    · simp only [List.length_cons]; omega

theorem dollarTag?_length_le {s tag body : List Char} (found : dollarTag? s = some (tag,body)) :
    body.length ≤ s.length := by
  have shorter := (List.dropWhile_sublist (l := s) (· != '$')).length_le
  simp only [dollarTag?] at found
  split at found
  · rename_i rest eq
    simp only [eq,List.length_cons] at shorter
    split at found
    · cases found
      omega
    · cases found
  · cases found

theorem takePiece_length_le (c : Char) (rest : List Char) :
    (takePiece c rest).2.length ≤ rest.length := by
  simp only [takePiece]
  split
  · exact (List.dropWhile_sublist _).length_le
  · split
    · exact splitThrough_length_le _ _
    · split
      · split
        · rename_i tag body found
          exact Nat.le_trans (splitThrough_length_le _ _) (dollarTag?_length_le found)
        · simp
      · simp

def pieces : List Char → List Piece
  | [] => []
  | c :: rest => (takePiece c rest).1 :: pieces (takePiece c rest).2
termination_by s => s.length
decreasing_by
  have := takePiece_length_le c rest
  simp only [List.length_cons]
  omega

def canonicalSql (sql : String) : String :=
  String.ofList ((pieces (Text.trim sql.toList)).flatMap Piece.canonical)

end DataAccess.Cache
