-- The types that a server gives to parameters and columns. The ones that values are sent and read
-- in are told apart; of any other, only the name is known.
namespace DataAccess.Wire

inductive ServerType where
  | bool
  | int2
  | int4
  | int8
  | float4
  | float8
  | text
  | varchar
  | bpchar
  | name
  | unknown
  | date
  | timestamp
  | timestamptz
  | other (typeName : String)
  deriving DecidableEq, Repr

namespace ServerType

def label : ServerType → String
  | bool => "bool"
  | int2 => "int2"
  | int4 => "int4"
  | int8 => "int8"
  | float4 => "float4"
  | float8 => "float8"
  | text => "text"
  | varchar => "varchar"
  | bpchar => "bpchar"
  | name => "name"
  | unknown => "unknown"
  | date => "date"
  | timestamp => "timestamp"
  | timestamptz => "timestamptz"
  | other typeName => typeName

def known : List ServerType :=
  [bool,int2,int4,int8,float4,float8,text,varchar,bpchar,name,unknown,date,
    timestamp,timestamptz]

def ofLabel (s : String) : ServerType :=
  (known.find? fun type => type.label == s).getD (other s)

def isText : ServerType → Bool
  | text | varchar | bpchar => true
  | _ => false

end ServerType

end DataAccess.Wire
