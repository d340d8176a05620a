import DataAccess.Declaration.Literal

-- The tokens of declaration source: words, literals, marks, and groups of tokens in brackets.
-- Blanks and comments stand between tokens; a comment that documents something stands for the
-- attribute that it is short for.
namespace DataAccess.Declaration
open Text

inductive Bracket where
  | round
  | square
  | curly
  deriving DecidableEq, Repr

def Bracket.opened? : Char → Option Bracket
  | '(' => some round
  | '[' => some square
  | '\x7b' => some curly
  | _ => none

def Bracket.closed? : Char → Option Bracket
  | ')' => some round
  | ']' => some square
  | '\x7d' => some curly
  | _ => none

-- A word keeps the `r#` that it may be written with; a string is the text that its literal
-- denotes; a mark is joint if another mark follows at once.
inductive Token where
  | word (s : String)
  | string (s : String)
  | number
  | literal
  | mark (c : Char) (joint : Bool)
  | group (bracket : Bracket) (tokens : List Token)

-- What follows a comment in `/*` and `*/`, the opening being read. Comments of this sort may
-- stand in each other.
def afterComment? (depth : Nat) : List Char → Option (List Char)
  | [] => none
  | '/' :: '*' :: rest => afterComment? (depth + 1) rest
  | '*' :: '/' :: rest =>
    match depth with
    | 0 => some rest
    | depth + 1 => afterComment? depth rest
  | _ :: rest => afterComment? depth rest

-- Blanks between tokens: the marks of text direction are among them.
def isGap (c : Char) : Bool := isBlank c || c.toNat == 0x200E || c.toNat == 0x200F

-- Blanks and plain comments. Each step takes one character at least.
def skipGaps : Nat → List Char → List Char
  | 0,s => s
  | fuel + 1,s =>
    match s with
    | '/' :: '/' :: '/' :: '/' :: rest => skipGaps fuel (rest.dropWhile (· ≠ '\n'))
    | '/' :: '/' :: '/' :: _ | '/' :: '/' :: '!' :: _ => s
    | '/' :: '/' :: rest => skipGaps fuel (rest.dropWhile (· ≠ '\n'))
    | '/' :: '*' :: '*' :: '/' :: rest => skipGaps fuel rest
    | '/' :: '*' :: '*' :: '*' :: rest =>
      ((afterComment? 0 ('*' :: '*' :: rest)).map (skipGaps fuel)).getD s
    | '/' :: '*' :: '*' :: _ | '/' :: '*' :: '!' :: _ => s
    | '/' :: '*' :: rest => ((afterComment? 0 rest).map (skipGaps fuel)).getD s
    | c :: rest => if isGap c then skipGaps fuel rest else s
    | [] => []

def hasWholeLineEnds : List Char → Bool
  | '\r' :: '\n' :: rest => hasWholeLineEnds rest
  | '\r' :: _ => false
  | _ :: rest => hasWholeLineEnds rest
  | [] => true

def docTokens (inner : Bool) (text : List Char) : List Token :=
  .mark '#' false :: (if inner then [.mark '!' false] else []) ++
    [.group .square [.word "doc",.mark '=' false,.string (String.ofList text)]]

def docComment? : List Char → Option (List Token × List Char)
  | '/' :: '/' :: '!' :: rest => ofLine true rest
  | '/' :: '*' :: '!' :: rest => ofBlock true rest
  | '/' :: '/' :: '/' :: rest => if rest.head? = some '/' then none else ofLine false rest
  | '/' :: '*' :: '*' :: rest => if rest.head? = some '*' then none else ofBlock false rest
  | _ => none
where
  ofLine (inner : Bool) (s : List Char) : Option (List Token × List Char) :=
    let line := s.takeWhile (· ≠ '\n')
    let after := s.drop line.length
    let text := if !after.isEmpty && line.getLast? = some '\r' then line.dropLast else line
    if hasWholeLineEnds text then some (docTokens inner text,after) else none
  ofBlock (inner : Bool) (s : List Char) : Option (List Token × List Char) :=
    (afterComment? 0 s).bind fun after =>
      let text := s.take (s.length - after.length - 2)
      if hasWholeLineEnds text then some (docTokens inner text,after) else none

def plainWords : List String := ["_","super","self","Self","crate"]

def rawWord? : List Char → Option (List Char × List Char)
  | 'r' :: '#' :: rest =>
    (word? rest).bind fun (word,after) =>
      if plainWords.contains (String.ofList word) then none else some ('r' :: '#' :: word,after)
  | s => word? s

def literalStarts : List String :=
  ["r\"","r#\"","r##","b\"","b'","br\"","br#","c\"","cr\"","cr#"]

def unreadLiteral : List Char := "(/*ERROR*/)".toList

def literal? : List Char → Option (Token × List Char)
  | '"' :: rest => (Alphabet.text.quoted? rest).map ofText
  | 'r' :: rest => (Alphabet.text.raw? rest).map ofText
  | 'b' :: '"' :: rest => (Alphabet.bytes.quoted? rest).map other
  | 'b' :: 'r' :: rest => (Alphabet.bytes.raw? rest).map other
  | 'b' :: '\'' :: rest => (Alphabet.bytes.afterSingle? rest).map (Token.literal,·)
  | 'c' :: '"' :: rest => (Alphabet.terminated.quoted? rest).map other
  | 'c' :: 'r' :: rest => (Alphabet.terminated.raw? rest).map other
  | '\'' :: rest => (Alphabet.text.afterSingle? rest).map (Token.literal,·)
  | s =>
    if unreadLiteral.isPrefixOf s then some (.literal,s.drop unreadLiteral.length)
    else (afterNumber? s).map (Token.number,·)
where
  ofText (read : List Char × List Char) : Token × List Char :=
    (.string (String.ofList read.1),read.2)
  other (read : List Char × List Char) : Token × List Char := (.literal,read.2)

def marks : List Char := "~!@#$%^&*-=+|;:,<.>/?'".toList

def mark? : List Char → Option (Char × List Char)
  | '/' :: '/' :: _ | '/' :: '*' :: _ => none
  | c :: rest => if marks.contains c then some (c,rest) else none
  | [] => none

def markToken? (s : List Char) : Option (Token × List Char) :=
  (mark? s).bind fun (c,rest) =>
    if c = '\'' then
      (rawWord? rest).bind fun (_,after) =>
        let isRaw := ['r','#'].isPrefixOf rest
        if after.head? = some '\'' ∨ (after.head? = some '#' ∧ !isRaw) then none
        else some (.mark c true,rest)
    else some (.mark c (mark? rest).isSome,rest)

def wordToken? (s : List Char) : Option (Token × List Char) :=
  if literalStarts.any fun start => start.toList.isPrefixOf s then none
  else (rawWord? s).map fun (word,rest) => (.word (String.ofList word),rest)

def opening? (s : List Char) : Option Bracket :=
  if unreadLiteral.isPrefixOf s then none else s.head?.bind Bracket.opened?

def leaf? (s : List Char) : Option (Token × List Char) :=
  (literal? s).or ((markToken? s).or (wordToken? s))

-- `outer` holds the groups that are open, each with the tokens before it, and `sofar` the
-- tokens of the group under way, both reversed. Each step takes one character at least.
def tokensFrom (outer : List (Bracket × List Token)) (sofar : List Token) :
    Nat → List Char → Option (List Token)
  | 0,_ => none
  | fuel + 1,source =>
    let s := skipGaps (source.length + 1) source
    match docComment? s with
    | some (tokens,rest) => tokensFrom outer (tokens.reverse ++ sofar) fuel rest
    | none =>
      match s with
      | [] => if outer.isEmpty then some sofar.reverse else none
      | c :: rest =>
        match opening? s,Bracket.closed? c,outer with
        | some bracket,_,_ => tokensFrom ((bracket,sofar) :: outer) [] fuel rest
        | none,some bracket,(opened,before) :: outer =>
          if opened = bracket then
            tokensFrom outer (.group bracket sofar.reverse :: before) fuel rest
          else none
        | none,some _,[] => none
        | none,none,_ =>
          (leaf? s).bind fun (token,after) => tokensFrom outer (token :: sofar) fuel after

def tokens? (source : String) : Option (List Token) :=
  let s := match source.toList with
    | c :: rest => if c.toNat = 0xFEFF then rest else c :: rest
    | [] => []
  tokensFrom [] [] (s.length + 1) s

def nameOf (source : String) : String :=
  match tokens? source with
  | some [.word name] | some (.word name :: .mark '<' _ :: _) => name
  | _ => source

end DataAccess.Declaration
