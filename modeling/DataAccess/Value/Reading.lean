import DataAccess.Value

-- Taking a value out as the type that a caller asks for. Nothing is converted on the way but whole
-- numbers to floats and to narrower widths that hold them.
namespace DataAccess.Value
open Calendar Number

def mismatch (wanted : String) (v : Value) : Mismatch := .expected wanted v.kind

def toBool : Value → Except Mismatch Bool
  | .bool b => .ok b
  | v => .error (v.mismatch "bool")

def toInt64 : Value → Except Mismatch Int64
  | .int n => .ok n
  | v => .error (v.mismatch "integer")

def toInt32 (v : Value) : Except Mismatch Int32 :=
  match v.toInt64 with
  | .error m => .error m
  | .ok n =>
    if Int32.minValue.toInt ≤ n.toInt ∧ n.toInt ≤ Int32.maxValue.toInt then .ok (Int32.ofInt n.toInt)
    else .error (.outOfRange n.toInt "i32")

def toInt16 (v : Value) : Except Mismatch Int16 :=
  match v.toInt64 with
  | .error m => .error m
  | .ok n =>
    if Int16.minValue.toInt ≤ n.toInt ∧ n.toInt ≤ Int16.maxValue.toInt then .ok (Int16.ofInt n.toInt)
    else .error (.outOfRange n.toInt "i16")

def toDouble : Value → Except Mismatch Double
  | .float x => .ok x
  | .int n => .ok (Double.ofInt n.toInt)
  | v => .error (v.mismatch "float")

def toSingle (v : Value) : Except Mismatch Single := v.toDouble.map Double.toSingle

def toText : Value → Except Mismatch String
  | .text s => .ok s
  | v => .error (v.mismatch "text")

def toDate : Value → Except Mismatch Date
  | .date d => .ok d
  | v => .error (v.mismatch "date")

def toTimestamp : Value → Except Mismatch Timestamp
  | .timestamp t => .ok t
  | v => .error (v.mismatch "timestamp")

def optional (read : Value → Except Mismatch α) : Value → Except Mismatch (Option α)
  | .null => .ok none
  | v => (read v).map some

def ofOption (make : α → Value) : Option α → Value
  | none => .null
  | some a => make a

end DataAccess.Value
