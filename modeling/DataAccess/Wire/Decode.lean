import DataAccess.Value
import DataAccess.Wire.Encode

-- Cells of a result as values, each read in the type of its column.
namespace DataAccess.Wire
open Calendar Number Text

def decodeInt (width : Nat) (bytes : Bytes) : Option Value :=
  (signed? width bytes).map fun n => .int (Int64.ofInt n)

def decodeDate (bytes : Bytes) : Option Value :=
  (signed? 4 bytes).bind fun days => (Date.ofNumber? (epochDay + days)).map .date

def decodeTimestamp (bytes : Bytes) : Option Value :=
  (signed? 8 bytes).bind fun micros => (Timestamp.afterMicros? epochDay micros).map .timestamp

def decoder? : ServerType → Option (Bytes → Option Value)
  | .bool => some fun bytes => (word? 1 bytes).map fun n => .bool (n ≠ 0)
  | .int2 => some (decodeInt 2)
  | .int4 => some (decodeInt 4)
  | .int8 => some (decodeInt 8)
  | .float4 => some fun bytes =>
    (word? 4 bytes).map fun n => .float (Single.mk (UInt32.ofNat n)).toDouble
  | .float8 => some fun bytes => (word? 8 bytes).map fun n => .float ⟨UInt64.ofNat n⟩
  | .text | .varchar | .bpchar | .name => some fun bytes => (ofUtf8? bytes).map .text
  | .date => some decodeDate
  | .timestamp | .timestamptz => some decodeTimestamp
  | .unknown | .other _ => none

abbrev Cell := Option Bytes

structure Column where
  name : String
  type : ServerType
  deriving DecidableEq, Repr

-- The value of a cell. A column of a type that is not read has no values, not even NULL.
def decodeCell (column : Column) (index : Nat) (cell : Cell) : Except Error Value :=
  match decoder? column.type,cell with
  | none,_ =>
    .error (.dataMapping column.name (.unsupportedType column.type.label column.name))
  | some _,none => .ok .null
  | some decode,some bytes =>
    match decode bytes with
    | some v => .ok v
    | none => .error (.dataMapping column.name (.undecodable index))

def decodeRow (index : Nat) : List Column → List Cell → Except Error Row
  | column :: columns,cell :: cells =>
    match decodeCell column index cell with
    | .error e => .error e
    | .ok v => (decodeRow (index + 1) columns cells).map (v :: ·)
  | _,_ => .ok []

def decodeRows (columns : List Column) : List (List Cell) → Except Error (List Row)
  | [] => .ok []
  | cells :: rest =>
    match decodeRow 0 columns cells with
    | .error e => .error e
    | .ok row => (decodeRows columns rest).map (row :: ·)

end DataAccess.Wire
