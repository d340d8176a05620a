import DataAccess.Declaration.Token
import DataAccess.Record.Members

-- The types of declared fields. Of a type it matters what its last path segment is, and, if that is
-- an option, what its one argument is.
namespace DataAccess.Declaration

def typeWords : List String := ["fn","dyn","impl","unsafe","extern","for","_"]

-- The tokens up to the closing angle bracket, the opening one being read, and what follows. The
-- bracket of an arrow closes nothing.
def angleGroup (depth : Nat) : List Token → Option (List Token × List Token)
  | [] => none
  | .mark '-' true :: .mark '>' joint :: rest =>
    (angleGroup depth rest).map fun (inner,after) =>
      (.mark '-' true :: .mark '>' joint :: inner,after)
  | .mark '<' joint :: rest =>
    (angleGroup (depth + 1) rest).map fun (inner,after) => (.mark '<' joint :: inner,after)
  | .mark '>' joint :: rest =>
    match depth with
    | 0 => some ([],rest)
    | depth + 1 =>
      (angleGroup depth rest).map fun (inner,after) => (.mark '>' joint :: inner,after)
  | token :: rest => (angleGroup depth rest).map fun (inner,after) => (token :: inner,after)

def splitAtMark (c : Char) (depth : Nat) : List Token → List (List Token)
  | [] => [[]]
  | .mark '-' true :: .mark '>' joint :: rest =>
    joined [.mark '-' true,.mark '>' joint] (splitAtMark c depth rest)
  | .mark d joint :: rest =>
    if depth = 0 ∧ d = c then [] :: splitAtMark c 0 rest
    else
      let depth := if d = '<' then depth + 1 else if d = '>' then depth - 1 else depth
      joined [.mark d joint] (splitAtMark c depth rest)
  | token :: rest => joined [token] (splitAtMark c depth rest)
where
  joined (tokens : List Token) : List (List Token) → List (List Token)
    | [] => [tokens]
    | piece :: pieces => (tokens ++ piece) :: pieces

def arguments (tokens : List Token) : List (List Token) :=
  let pieces := splitAtMark ',' 0 tokens
  if (pieces.getLast?.map List.isEmpty).getD true then pieces.dropLast else pieces

def isBracketedType (tokens : List Token) : Bool :=
  match tokens with
  | [] | .mark '?' _ :: _ => false
  | _ => (splitAtMark ',' 0 tokens).length == 1

-- The last segment of a path, with the arguments that it has in angle brackets; those in round
-- brackets are passed over.
structure Segment where
  name : String
  arguments : List (List Token)

-- What stands after a segment: two colons and further segments, or nothing.
def Segment.goOn (segment : Segment) (further : List Token → Option Segment) :
    List Token → Option Segment
  | [] => some segment
  | .mark ':' true :: .mark ':' _ :: rest => further rest
  | _ => none

-- After arguments in round brackets a result type may stand, and the path goes on only where
-- there is none or it is a type in brackets.
def Segment.afterRound (segment : Segment) (further : List Token → Option Segment) :
    List Token → Option Segment
  | .mark '-' true :: .mark '>' _ :: .group .round inner :: rest =>
    if isBracketedType inner then segment.goOn further rest else some segment
  | .mark '-' true :: .mark '>' _ :: _ => some segment
  | rest => segment.goOn further rest

def Segment.afterName (segment : Segment) (further : List Token → Option Segment) :
    List Token → Option Segment
  | .group .round _ :: rest | .mark ':' true :: .mark ':' _ :: .group .round _ :: rest =>
    if segment.arguments.isEmpty then segment.afterRound further rest else none
  | rest => segment.goOn further rest

-- The segments of a path, as many as there are tokens at most; none if the tokens are no
-- path and nothing else.
def lastSegment? : Nat → List Token → Option Segment
  | 0,_ => none
  | fuel + 1,tokens =>
    match tokens with
    | .word name :: .mark '<' _ :: rest
    | .word name :: .mark ':' true :: .mark ':' _ :: .mark '<' _ :: rest =>
      (angleGroup 0 rest).bind fun (inner,after) =>
        Segment.afterName ⟨name,arguments inner⟩ (lastSegment? fuel) after
    | .word name :: rest => Segment.afterName ⟨name,[]⟩ (lastSegment? fuel) rest
    | _ => none

-- The last segment of a type that is a path. A path may begin with two colons, or with another
-- type in angle brackets; with a plus after it, it is a bound.
def pathSegment? (tokens : List Token) : Option Segment :=
  if (splitAtMark '+' 0 tokens).length ≠ 1 then none
  else
    match tokens with
    | .mark ':' true :: .mark ':' _ :: rest => lastSegment? tokens.length rest
    | .mark '<' _ :: rest =>
      match angleGroup 0 rest with
      | some (_,.mark ':' true :: .mark ':' _ :: rest) => lastSegment? tokens.length rest
      | _ => none
    | .word w :: _ => if typeWords.contains w then none else lastSegment? tokens.length tokens
    | _ => none

def storageOf? : String → Option Storage
  | "bool" => some .bool
  | "i16" => some .int16
  | "i32" => some .int32
  | "i64" => some .int64
  | "f32" => some .single
  | "f64" => some .double
  | "String" => some .text
  | "NaiveDate" => some .date
  | "NaiveDateTime" => some .timestamp
  | _ => none

def fieldStorage? (source : String) : Option (Storage × Bool) := do
  let segment ← pathSegment? (← tokens? source)
  match segment with
  | ⟨"Option",[argument]⟩ => return (← storageOf? (← pathSegment? argument).name,true)
  | _ => return (← storageOf? segment.name,false)

end DataAccess.Declaration
