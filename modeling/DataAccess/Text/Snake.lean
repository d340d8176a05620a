import DataAccess.Text.Blank
import DataAccess.Text.Case
import DataAccess.Text.ClassTable

-- Names in snake case. A name is cut where letters and numbers stop, between a lower-case and an
-- upper-case letter, and before the last of several upper-case letters that a lower-case one
-- follows; the words so found are written in lower case with `_` between.
namespace DataAccess.Text

def isAlphanumeric (c : Char) : Bool :=
  if isAscii c then c.isAlphanum else covered alphanumericRuns c

inductive LastCase where
  | unseen
  | lower
  | upper
  deriving DecidableEq

def LastCase.after (seen : LastCase) (c : Char) : LastCase :=
  if isLowercase c then .lower else if isUppercase c then .upper else seen

-- The words of one run of letters and numbers; `word` is the word under way, reversed.
def humps (seen : LastCase) (word : List Char) : List Char → List (List Char)
  | [] => [word.reverse]
  | [c] => [(c :: word).reverse]
  | c :: next :: rest =>
    if seen.after c = .lower && isUppercase next then
      (c :: word).reverse :: humps .unseen [] (next :: rest)
    else if seen = .upper && isUppercase c && isLowercase next then
      word.reverse :: humps .unseen [c] (next :: rest)
    else humps (seen.after c) (c :: word) (next :: rest)

def lowerWord : List Char → List Char
  | [] => []
  | [c] => if c = capitalSigma then [Char.ofNat 0x3C2] else lowerChar c
  | c :: rest => lowerChar c ++ lowerWord rest

def snakeWords (name : List Char) : List (List Char) :=
  ((name.splitOnP fun c => !isAlphanumeric c).filter fun run => !run.isEmpty).flatMap
    (humps .unseen [])

def snakeCase (name : String) : String :=
  String.ofList (List.intercalate ['_'] ((snakeWords name.toList).map lowerWord))

end DataAccess.Text
