import DataAccess.Calendar.Reading
import DataAccess.Error
import DataAccess.Number.Shortest

-- The one scalar type that statements bind and results bring back. Values are equal when they are
-- of one kind and hold the same; floats are compared by their bits.
namespace DataAccess
open Calendar Number

inductive Value where
  | null
  | bool (b : Bool)
  | int (n : Int64)
  | float (x : Double)
  | text (s : String)
  | date (d : Date)
  | timestamp (t : Timestamp)
  deriving DecidableEq

abbrev Row := List Value

namespace Value

def isNull : Value → Bool
  | .null => true
  | _ => false

def kind : Value → String
  | .null => "null"
  | .bool _ => "bool"
  | .int _ => "integer"
  | .float _ => "float"
  | .text _ => "text"
  | .date _ => "date"
  | .timestamp _ => "timestamp"

def display : Value → String
  | .null => "NULL"
  | .bool b => if b then "true" else "false"
  | .int n => toString n.toInt
  | .float x => String.ofList x.text
  | .text s => s
  | .date d => String.ofList d.text
  | .timestamp t => String.ofList t.text

end Value

end DataAccess
