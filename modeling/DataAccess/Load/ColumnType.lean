import DataAccess.Number.Reading
import DataAccess.Text.Case
import DataAccess.Value

-- The types of loaded columns. The type of a column is the narrowest that all its cells fit: whole
-- numbers are numbers, dates are neither, and everything is text.
namespace DataAccess.Load
open Calendar Number

inductive ColumnType where
  | unknown
  | integer
  | float
  | date
  | text
  deriving DecidableEq, Repr

namespace ColumnType

def all : List ColumnType := [unknown,integer,float,date,text]

def name : ColumnType → String
  | unknown => "Unknown"
  | integer => "Integer"
  | float => "Float"
  | date => "Date"
  | text => "Text"

def sqlType : ColumnType → String
  | integer => "BIGINT"
  | float => "DOUBLE PRECISION"
  | date => "DATE"
  | unknown | text => "TEXT"

def readFinite? (s : List Char) : Option Double := (readDouble? s).filter Double.isFinite

-- The type of a cell that is not blank. Eight digits are a whole number, not a date.
def ofCell (cell : String) : ColumnType :=
  let s := Text.trim cell.toList
  if (readInt64? s).isSome then integer
  else if (readFinite? s).isSome then float
  else if (readDate? cell).isSome then date
  else text

def widen : ColumnType → ColumnType → ColumnType
  | unknown,t | t,unknown => t
  | integer,float | float,integer => float
  | a,b => if a = b then a else text

def ofDataType? (declared : String) : Option ColumnType :=
  match String.ofList (Text.asciiLower (Text.trim declared.toList)) with
  | "smallint" | "integer" | "bigint" => some integer
  | "real" | "double precision" => some float
  | "date" => some date
  | "text" | "character varying" | "character" => some text
  | _ => none

-- A cell as a value of a type. A blank cell is NULL in every column, and text keeps the blanks
-- at its ends.
def toValue (type : ColumnType) (cell : String) : Except CellFault Value :=
  let trimmed := Text.trimmed cell
  if trimmed = "" then .ok .null
  else
    match type with
    | integer =>
      match readInt64? trimmed.toList with
      | some n => .ok (.int n)
      | none => .error (.notInteger trimmed)
    | float =>
      match readFinite? trimmed.toList with
      | some x => .ok (.float x)
      | none => .error (.notFinite trimmed)
    | date =>
      match readDate? trimmed with
      | some d => .ok (.date d)
      | none => .error (.notDate trimmed)
    | unknown | text => .ok (.text cell)

end ColumnType

end DataAccess.Load
