import DataAccess.Value
import DataAccess.Wire.Bytes
import DataAccess.Wire.ServerType

-- Values as parameters. The server declares the type of each parameter, and a value is sent in that
-- type or refused: numbers are brought to the declared width if they fit, numbers and dates are
-- sent to text columns as their text, and nothing else is converted.
namespace DataAccess.Wire
open Calendar Number Text

inductive EncodeFault where
  | tooLarge
  | tooSmall
  | untransmittable
  | refused (kind : String) (type : ServerType)
  deriving DecidableEq, Repr

def EncodeFault.message : EncodeFault → String
  | tooLarge => "number too large to fit in target type"
  | tooSmall => "number too small to fit in target type"
  | untransmittable => "value too large to transmit"
  | refused kind type => s!"cannot bind a {kind} value to a parameter of type {type.label}"

def encodeInt (width : Nat) (n : Int64) : Except EncodeFault Bytes :=
  if words width ≤ 2 * n.toInt then .error .tooLarge
  else if 2 * n.toInt < -(words width : Int) then .error .tooSmall
  else .ok (ofInt width n.toInt)

def encodeDouble (x : Double) : Bytes := ofNat 8 x.bits.toNat

def encodeSingle (x : Single) : Bytes := ofNat 4 x.bits.toNat

-- The day that dates and timestamps are counted from, 1 January 2000, as a day number.
def epochDay : Int := 730119

-- A count of days or microseconds from the epoch, if it fits.
def encodeCount (width : Nat) (n : Int) : Except EncodeFault Bytes :=
  if -(words width : Int) ≤ 2 * n ∧ 2 * n < words width then .ok (ofInt width n)
  else .error .untransmittable

def encodeDate (d : Date) : Except EncodeFault Bytes := encodeCount 4 (d.number - epochDay)

-- Whole microseconds from the epoch on; what is left is cut off toward the epoch.
def microsFromEpoch (t : Timestamp) : Int :=
  (t.nanosNumber - epochDay * 86400 * 1_000_000_000).tdiv 1000

def encodeTimestamp (t : Timestamp) : Except EncodeFault Bytes :=
  encodeCount 8 (microsFromEpoch t)

-- What a value is written as for a column of text. Dates are not laid out for it, they write
-- themselves.
def written : Value → String
  | .date d => String.ofList d.plain
  | v => v.display

-- What is sent before a text. The types of a tree extension have the number of their form there.
def textLead? : ServerType → Option Bytes
  | .text | .varchar | .bpchar | .name | .unknown | .other "citext" => some []
  | .other "ltree" | .other "lquery" | .other "ltxtquery" => some [1]
  | _ => none

def encode (type : ServerType) (v : Value) : Except EncodeFault (Option Bytes) :=
  match v,type with
  | .null,_ => .ok none
  | .bool b,.bool => .ok (some [if b then 1 else 0])
  | .int n,.int2 => (encodeInt 2 n).map some
  | .int n,.int4 => (encodeInt 4 n).map some
  | .int n,.int8 => .ok (some (ofInt 8 n.toInt))
  | .int n,.float4 => .ok (some (encodeSingle (Single.ofInt n.toInt)))
  | .int n,.float8 => .ok (some (encodeDouble (Double.ofInt n.toInt)))
  | .float x,.float4 => .ok (some (encodeSingle x.toSingle))
  | .float x,.float8 => .ok (some (encodeDouble x))
  | .text s,_ =>
    match textLead? type with
    | some lead => .ok (some (lead ++ utf8 s))
    | none => .error (.refused v.kind type)
  | .date d,.date => (encodeDate d).map some
  | .timestamp t,.timestamp | .timestamp t,.timestamptz => (encodeTimestamp t).map some
  | .bool _,_ | .timestamp _,_ => .error (.refused v.kind type)
  | _,_ =>
    if type.isText then .ok (some (utf8 (written v))) else .error (.refused v.kind type)

end DataAccess.Wire
