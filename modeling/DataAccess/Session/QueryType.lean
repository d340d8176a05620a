import DataAccess.Text.Blank
import DataAccess.Text.Case
import DataAccess.Text.Utf8

-- What a statement does, by its first word, and the excerpt of its text that is logged.
namespace DataAccess

inductive QueryType where
  | select
  | insert
  | update
  | delete
  | other
  deriving DecidableEq, Repr

namespace QueryType

def name : QueryType → String
  | select => "Select"
  | insert => "Insert"
  | update => "Update"
  | delete => "Delete"
  | other => "Other"

-- The type by the word that the text begins with, in any ASCII case. A word ends at a blank or
-- an opening bracket.
def ofSql (sql : String) : QueryType :=
  let word := (Text.trimStart sql.toList).takeWhile fun c => !(Text.isBlank c || c == '(')
  match String.ofList (Text.asciiUpper word) with
  | "SELECT" => select
  | "INSERT" => insert
  | "UPDATE" => update
  | "DELETE" => delete
  | _ => other

end QueryType

def maxLoggedBytes : Nat := 200

-- The last place up to `n` where a character begins or the text ends.
def boundaryAtMost (sql : String) : Nat → Nat
  | 0 => 0
  | n + 1 =>
    if (String.Pos.Raw.mk (n + 1)).isValid sql then n + 1 else boundaryAtMost sql n

-- A text is cut where a character begins, so that what is before the cut is a text.
def excerpt (sql : String) : String :=
  if sql.utf8ByteSize ≤ maxLoggedBytes then sql
  else
    (Text.ofUtf8? ((Text.utf8 sql).take (boundaryAtMost sql maxLoggedBytes))).getD "" ++ "..."

end DataAccess
