import DataAccess.Value

-- What is declared of a record type: its names, the table its records are read from, and its fields
-- with their types. Columns of a result belong to fields by their position.
namespace DataAccess

inductive FieldType where
  | bool
  | int
  | float
  | text
  | date
  | timestamp
  deriving DecidableEq, Repr

namespace FieldType

def all : List FieldType := [bool,int,float,text,date,timestamp]

def name : FieldType → String
  | bool => "Bool"
  | int => "Int"
  | float => "Float"
  | text => "Text"
  | date => "Date"
  | timestamp => "Timestamp"

def sqlType : FieldType → String
  | bool => "BOOLEAN"
  | int => "BIGINT"
  | float => "DOUBLE PRECISION"
  | text => "TEXT"
  | date => "DATE"
  | timestamp => "TIMESTAMP"

def owns : FieldType → Value → Bool
  | bool,.bool _ | int,.int _ | float,.float _ | text,.text _ | date,.date _
  | timestamp,.timestamp _ => true
  | _,_ => false

end FieldType

structure Field where
  ordinal : Nat
  name : String
  type : FieldType
  nullable : Bool
  deriving DecidableEq, Repr

-- A declared record type. The name is the type's own, and two types may share a model: what is
-- kept for a model is kept for both, what is kept for a type is not.
structure Shape where
  name : String
  model : String
  table : String
  fields : List Field
  deriving DecidableEq, Repr

def Shape.columns (shape : Shape) : List String := shape.fields.map Field.name

end DataAccess
