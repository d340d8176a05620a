import DataAccess.Ident
import DataAccess.Value

-- SQL text beside the values that it refers to. A value is only ever bound to the next placeholder,
-- so a statement that is built up from text without placeholders refers to its values in order and
-- to each of them once.
namespace DataAccess

structure Statement where
  sql : String
  params : Array Value
  deriving DecidableEq

namespace Statement

def ofText (sql : String) : Statement := ⟨sql,#[]⟩

def push (s : Statement) (text : String) : Statement := { s with sql := s.sql ++ text }

def pushIdent (s : Statement) (i : Ident) : Statement := { s with sql := i.writeTo s.sql }

theorem pushIdent_push (s : Statement) (i : Ident) : s.pushIdent i = s.push i.sql := by
  rw [pushIdent,Ident.writeTo_sql,push]

def placeholder (n : Nat) : String := "$" ++ toString n

def bind (s : Statement) (v : Value) : Statement :=
  ⟨s.sql ++ placeholder (s.params.size + 1),s.params.push v⟩

def bindList (s : Statement) : List Value → Statement
  | [] => s
  | v :: vs => vs.foldl (fun s v => (s.push ", ").bind v) (s.bind v)

def pushIdents (s : Statement) : List Ident → Statement
  | [] => s
  | i :: is => is.foldl (fun s i => (s.push ", ").pushIdent i) (s.pushIdent i)

def withParams (s : Statement) (params : Array Value) : Statement := { s with params }

-- How many dollar signs with a digit after them a text has.
def countPlaceholders : List Char → Nat
  | [] => 0
  | c :: rest =>
    (if c = '$' ∧ (rest.head?.any Char.isDigit) then 1 else 0) + countPlaceholders rest

def placeholderCount (s : Statement) : Nat := countPlaceholders s.sql.toList

end Statement

end DataAccess
