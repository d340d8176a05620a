import DataAccess.Error
import DataAccess.Text.Blank
import DataAccess.Text.Case

-- The comparison operators that a WHERE clause may use.
namespace DataAccess

inductive Operator where
  | eq
  | ne
  | gt
  | lt
  | gte
  | lte
  | like
  | isIn
  | notIn
  deriving DecidableEq, Repr

namespace Operator

def all : List Operator := [eq,ne,gt,lt,gte,lte,like,isIn,notIn]

def sql : Operator → String
  | eq => "="
  | ne => "!="
  | gt => ">"
  | lt => "<"
  | gte => ">="
  | lte => "<="
  | like => "LIKE"
  | isIn => "IN"
  | notIn => "NOT IN"

def takesList : Operator → Bool
  | isIn | notIn => true
  | _ => false

def normalized (s : String) : List Char :=
  Text.asciiUpper (List.intercalate [' '] (Text.words s.toList))

-- Reads an operator; blanks and case do not count.
def parse (s : String) : Except Error Operator :=
  match all.find? fun op => op.sql.toList == normalized s with
  | some op => .ok op
  | none => .error (.validation (.unknownOperator s))

end Operator

end DataAccess
