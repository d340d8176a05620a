import DataAccess.Number.Reading
import DataAccess.Record.Field
import DataAccess.Text.Case

-- Converting a value of a result to the type of the field it belongs to. A value that is of the
-- type already is left as it is, and what would lose a part of the value is refused.
namespace DataAccess
open Calendar Number

def readBool? (s : String) : Option Bool :=
  let word := String.ofList (Text.asciiLower (Text.trim s.toList))
  if word ∈ ["true","t","yes","y","1"] then some true
  else if word ∈ ["false","f","no","n","0"] then some false
  else none

def wholeInt64? (x : Double) : Option Int64 :=
  x.toInt?.bind fun n => if n.natAbs < UInt64.size / 2 then int64? n else none

namespace FieldType

def toBool? : Value → Option Bool
  | .bool b => some b
  | .int n => if n = 0 then some false else if n = 1 then some true else none
  | .text s => readBool? s
  | _ => none

def toInt? : Value → Option Int64
  | .int n => some n
  | .float x => wholeInt64? x
  | .text s => readInt64? (Text.trim s.toList)
  | _ => none

def toFloat? : Value → Option Double
  | .float x => some x
  | .int n => some (Double.ofInt n.toInt)
  | .text s => readDouble? (Text.trim s.toList)
  | _ => none

def toDate? : Value → Option Date
  | .date d => some d
  | .timestamp t => some t.date
  | .text s => readDate? s
  | _ => none

def toTimestamp? : Value → Option Timestamp
  | .timestamp t => some t
  | .date d => some (Timestamp.ofDate d)
  | .text s => readTimestamp? s
  | _ => none

def convert? (type : FieldType) (v : Value) : Option Value :=
  match type with
  | bool => (toBool? v).map .bool
  | int => (toInt? v).map .int
  | float => (toFloat? v).map .float
  | text => some (.text v.display)
  | date => (toDate? v).map .date
  | timestamp => (toTimestamp? v).map .timestamp

end FieldType

-- The value as one for the field. NULL is one for a nullable field and for no other.
def Field.coerce (field : Field) (v : Value) : Except Error Value :=
  if v.isNull then
    if field.nullable then .ok .null else .error (.dataMapping field.name .unexpectedNull)
  else
    match field.type.convert? v with
    | some w => .ok w
    | none =>
      .error (.dataMapping field.name (.unconvertible v.kind v.display field.type.name))

end DataAccess
