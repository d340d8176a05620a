import DataAccess.Text.Blank
import DataAccess.Text.Run
import DataAccess.Text.WordTable

-- Words and literals of declaration source. A literal of text is read with the text that it
-- denotes; of every other literal it matters only where it ends.
namespace DataAccess.Declaration
open Text

-- Whether a word may begin with a character. A later version of the character tables may have a
-- letter where there is no character yet, so a reserved code point counts as a letter.
def startsWord (c : Char) : Bool :=
  c == '_' || (if isAscii c then c.isAlpha else covered wordStartRuns c || covered reservedRuns c)

def continuesWord (c : Char) : Bool :=
  startsWord c || (if isAscii c then c.isDigit else covered wordPartRuns c)

def word? : List Char → Option (List Char × List Char)
  | [] => none
  | c :: rest =>
    if startsWord c then some (c :: rest.takeWhile continuesWord,rest.dropWhile continuesWord)
    else none

def dropSuffix (s : List Char) : List Char := ((word? s).map Prod.snd).getD s

def hexValue? (c : Char) : Option Nat :=
  if c.isDigit then some (c.toNat - '0'.toNat)
  else if 'a' ≤ c ∧ c ≤ 'f' then some (c.toNat - 'a'.toNat + 10)
  else if 'A' ≤ c ∧ c ≤ 'F' then some (c.toNat - 'A'.toNat + 10)
  else none

def codePoint? (digits : List Char) : Option Char :=
  let n := digits.foldl (fun n c => n.bind fun n => (hexValue? c).map (16 * n + ·)) (some 0)
  n.bind fun n => if h : n.isValidChar then some (Char.ofNatAux n h) else none

-- The character of a code point in braces, the opening one being read, and what follows. There
-- are one to six digits; underscores may stand after the first one.
def bracedPoint? (s : List Char) : Option (Char × List Char) :=
  let inner := s.takeWhile (· ≠ '\x7d')
  let digits := inner.filter (· ≠ '_')
  if digits.isEmpty || 6 < digits.length || inner.head? == some '_' then none
  else
    match s.dropWhile (· ≠ '\x7d') with
    | _ :: after => (codePoint? digits).map fun c => (c,after)
    | [] => none

-- What the literals of one sort may hold: which characters stand for themselves, the bound of
-- those that two hexadecimal digits may write, and whether code points and the NUL character
-- may be written.
structure Alphabet where
  plain : Char → Bool
  hexBound : Nat
  points : Bool
  zero : Bool

namespace Alphabet

def text : Alphabet := ⟨fun _ => true,128,true,true⟩
def bytes : Alphabet := ⟨isAscii,256,false,true⟩
def terminated : Alphabet := ⟨(· ≠ Char.ofNat 0),256,true,false⟩

-- The character that an escape of any sort stands for, and what follows the escape.
def anyEscape? (a : Alphabet) : List Char → Option (Char × List Char)
  | 'n' :: rest => some ('\n',rest)
  | 'r' :: rest => some ('\r',rest)
  | 't' :: rest => some ('\t',rest)
  | '0' :: rest => some (Char.ofNat 0,rest)
  | 'x' :: high :: low :: rest =>
    (codePoint? [high,low]).bind fun c => if c.toNat < a.hexBound then some (c,rest) else none
  | 'u' :: '\x7b' :: rest => if a.points then bracedPoint? rest else none
  | c :: rest => if c = '\\' ∨ c = '"' ∨ c = '\'' then some (c,rest) else none
  | [] => none

def escape? (a : Alphabet) (s : List Char) : Option (Char × List Char) :=
  (a.anyEscape? s).filter fun (c,_) => a.zero || c ≠ Char.ofNat 0

def dropIndent : List Char → Option (List Char)
  | '\r' :: '\n' :: rest => dropIndent rest
  | '\r' :: _ => none
  | c :: rest => if c = ' ' ∨ c = '\t' ∨ c = '\n' then dropIndent rest else some (c :: rest)
  | [] => none

-- The text of a literal up to its closing quote, and what follows. Each step takes one
-- character at least. A carriage return stands before a line feed only, and is not text.
def quotedText (a : Alphabet) : Nat → List Char → Option (List Char × List Char)
  | 0,_ => none
  | fuel + 1,s =>
    match s with
    | [] => none
    | '\\' :: '\n' :: rest => (dropIndent rest).bind (a.quotedText fuel)
    | '\\' :: '\r' :: rest => (dropIndent ('\r' :: rest)).bind (a.quotedText fuel)
    | '\\' :: rest =>
      (a.escape? rest).bind fun (c,rest) =>
        (a.quotedText fuel rest).map fun (text,after) => (c :: text,after)
    | '\r' :: '\n' :: rest => (a.quotedText fuel rest).map fun (text,after) => ('\n' :: text,after)
    | '\r' :: _ => none
    | c :: rest =>
      if c = '"' then some ([],rest)
      else if a.plain c then (a.quotedText fuel rest).map fun (text,after) => (c :: text,after)
      else none

def rawText (a : Alphabet) (hashes : Nat) : List Char → Option (List Char × List Char)
  | [] => none
  | '\r' :: '\n' :: rest =>
    (a.rawText hashes rest).map fun (text,after) => ('\r' :: '\n' :: text,after)
  | '\r' :: _ => none
  | c :: rest =>
    if c = '"' ∧ (List.replicate hashes '#').isPrefixOf rest then some ([],rest.drop hashes)
    else if a.plain c then (a.rawText hashes rest).map fun (text,after) => (c :: text,after)
    else none

def quoted? (a : Alphabet) (s : List Char) : Option (List Char × List Char) :=
  (a.quotedText (s.length + 1) s).map fun (text,after) => (text,dropSuffix after)

def raw? (a : Alphabet) (s : List Char) : Option (List Char × List Char) :=
  let hashes := (s.takeWhile (· = '#')).length
  match s.drop hashes with
  | c :: rest =>
    if c = '"' ∧ hashes ≤ 255 then
      (a.rawText hashes rest).map fun (text,after) => (text,dropSuffix after)
    else none
  | [] => none

def afterSingle? (a : Alphabet) : List Char → Option (List Char)
  | '\\' :: rest => (a.escape? rest).bind fun (_,rest) => afterApostrophe rest
  | c :: rest => if a.plain c then afterApostrophe rest else none
  | [] => none
where
  afterApostrophe : List Char → Option (List Char)
    | '\'' :: rest => some (dropSuffix rest)
    | _ => none

end Alphabet

def isDigitOrGap (c : Char) : Bool := c.isDigit || c == '_'

def afterExponent? (s : List Char) : Option (List Char) :=
  let s := s.dropWhile (· = '_')
  let unsigned := match s with
    | '+' :: rest | '-' :: rest => rest.dropWhile (· = '_')
    | _ => s
  match unsigned with
  | c :: rest => if c.isDigit then some (rest.dropWhile isDigitOrGap) else none
  | [] => none

-- What follows the digits of a number with a point or an exponent. A point before another point
-- or a word is none; a number with a point may do without the exponent.
def afterFraction? : List Char → Option (List Char)
  | [] => none
  | c :: rest =>
    if !c.isDigit then none
    else
      match rest.dropWhile isDigitOrGap with
      | '.' :: rest =>
        if rest.head?.any fun d => d == '.' || startsWord d then none
        else
          let after := rest.dropWhile isDigitOrGap
          match after with
          | 'e' :: rest | 'E' :: rest => some ((afterExponent? rest).getD after)
          | _ => some after
      | 'e' :: rest | 'E' :: rest => afterExponent? rest
      | _ => none

-- What follows the digits of a whole number in a base up to ten. A digit beyond the base is
-- refused.
def afterDigits? (base : Nat) (s : List Char) : Option (List Char) :=
  let digits := s.takeWhile isDigitOrGap
  if digits.any Char.isDigit && digits.all fun c => c == '_' || c.toNat - '0'.toNat < base then
    some (s.drop digits.length)
  else none

def afterWhole? : List Char → Option (List Char)
  | '0' :: 'x' :: rest =>
    let digits := rest.takeWhile fun c => c == '_' || (hexValue? c).isSome
    if digits.any (· ≠ '_') then some (rest.drop digits.length) else none
  | '0' :: 'o' :: rest => afterDigits? 8 rest
  | '0' :: 'b' :: rest => afterDigits? 2 rest
  | '_' :: _ => none
  | s => afterDigits? 10 s

def afterNumber? (s : List Char) : Option (List Char) :=
  (ended (afterFraction? s)).or (ended (afterWhole? s))
where
  ended (rest : Option (List Char)) : Option (List Char) :=
    (rest.map dropSuffix).filter fun rest => !rest.head?.any continuesWord

end DataAccess.Declaration
