import DataAccess.Record.Mapping

-- Record types that are declared by their members. A member has a column and a storage, the type
-- that it is held in; a storage is one of the field types or a narrower form of one, so that a
-- record's values are always ones that its fields take back.
namespace DataAccess
open Calendar Number

inductive Storage where
  | bool
  | int16
  | int32
  | int64
  | single
  | double
  | text
  | date
  | timestamp
  deriving DecidableEq, Repr

namespace Storage

abbrev Held : Storage → Type
  | bool => Bool
  | int16 => Int16
  | int32 => Int32
  | int64 => Int64
  | single => Single
  | double => Double
  | text => String
  | date => Date
  | timestamp => Timestamp

def fieldType : Storage → FieldType
  | bool => .bool
  | int16 | int32 | int64 => .int
  | single | double => .float
  | text => .text
  | date => .date
  | timestamp => .timestamp

def toValue : (s : Storage) → s.Held → Value
  | bool,b => .bool b
  | int16,n => .int (Int64.ofInt n.toInt)
  | int32,n => .int (Int64.ofInt n.toInt)
  | int64,n => .int n
  | single,x => .float x.toDouble
  | double,x => .float x
  | text,s => .text s
  | date,d => .date d
  | timestamp,t => .timestamp t

def ofValue : (s : Storage) → Value → Except Mismatch s.Held
  | bool,v => v.toBool
  | int16,v => v.toInt16
  | int32,v => v.toInt32
  | int64,v => v.toInt64
  | single,v => v.toSingle
  | double,v => v.toDouble
  | text,v => v.toText
  | date,v => v.toDate
  | timestamp,v => v.toTimestamp

end Storage

structure Member where
  name : String
  column : String
  storage : Storage
  nullable : Bool
  deriving DecidableEq, Repr

namespace Member

abbrev Held (m : Member) : Type :=
  match m.nullable with
  | true => Option m.storage.Held
  | false => m.storage.Held

def toValue (m : Member) (held : m.Held) : Value :=
  match m,held with
  | ⟨_,_,storage,true⟩,held => Value.ofOption storage.toValue held
  | ⟨_,_,storage,false⟩,held => storage.toValue held

def ofValue (m : Member) (v : Value) : Except Mismatch m.Held :=
  match m with
  | ⟨_,_,storage,true⟩ => Value.optional storage.ofValue v
  | ⟨_,_,storage,false⟩ => storage.ofValue v

def field (ordinal : Nat) (m : Member) : Field :=
  ⟨ordinal,m.column,m.storage.fieldType,m.nullable⟩

end Member

abbrev Instance : List Member → Type
  | [] => Unit
  | m :: members => m.Held × Instance members

namespace Instance

def toValues : (members : List Member) → Instance members → Row
  | [],_ => []
  | m :: members,(held,rest) => m.toValue held :: toValues members rest

-- Each value is taken out of the row, in the order of the members.
def ofRow : MappedRow → Nat → (members : List Member) → Except Error (Instance members)
  | _,_,[] => .ok ()
  | row,index,m :: members =>
    match row.take index m.ofValue with
    | .error e => .error e
    | .ok (held,row) =>
      match ofRow row (index + 1) members with
      | .error e => .error e
      | .ok rest => .ok (held,rest)

end Instance

def fieldsFrom (ordinal : Nat) : List Member → List Field
  | [] => []
  | m :: members => m.field ordinal :: fieldsFrom (ordinal + 1) members

def RecordType.ofMembers (name model table : String) (members : List Member) :
    RecordType (Instance members) where
  name := name
  model := model
  table := table
  fields := fieldsFrom 0 members
  ofRow row := Instance.ofRow row 0 members
  toValues := Instance.toValues members

end DataAccess
