import DataAccess.Text.Utf8

-- Taking a CSV source apart, byte by byte. Fields are separated by commas, and a record ends at a
-- carriage return or line feed; such bytes before a record are passed over, so that blank lines are
-- no records. A field that begins with a double quote goes up to the next one that is not doubled,
-- and what then follows up to the comma belongs to it as well.
namespace DataAccess.Csv
open Text

def comma : UInt8 := 44
def quote : UInt8 := 34
def lineFeed : UInt8 := 10
def carriageReturn : UInt8 := 13

def endsRecord (b : UInt8) : Bool := b == lineFeed || b == carriageReturn

inductive Place where
  | beforeRecord
  | fieldStart
  | plain
  | quoted
  | afterQuote
  deriving DecidableEq, Repr

structure Position where
  line : Nat
  byte : Nat
  deriving DecidableEq, Repr

-- A record before it is known to be text. Its position is the one at which the record before it
-- had ended.
structure RawRecord where
  position : Position
  fields : List Bytes
  deriving DecidableEq, Repr

structure Scan where
  place : Place
  field : Bytes
  fields : List Bytes
  start : Position
  position : Position
  records : List RawRecord
  deriving Repr

namespace Scan

def initial (position : Position) : Scan :=
  ⟨.beforeRecord,[],[],⟨1,0⟩,position,[]⟩

def keep (s : Scan) (b : UInt8) (place : Place) : Scan :=
  { s with place,field := b :: s.field }

def endField (s : Scan) : Scan :=
  { s with place := .fieldStart,field := [],fields := s.field.reverse :: s.fields }

def endRecord (s : Scan) : Scan :=
  { s with
    place := .beforeRecord
    field := []
    fields := []
    start := s.position
    records := ⟨s.start,(s.field.reverse :: s.fields).reverse⟩ :: s.records }

def plainByte (s : Scan) (b : UInt8) : Scan :=
  if b == comma then s.endField
  else if endsRecord b then s.endRecord
  else s.keep b .plain

def firstByte (s : Scan) (b : UInt8) : Scan :=
  if b == quote then { s with place := .quoted } else s.plainByte b

def count (s : Scan) (b : UInt8) : Scan :=
  { s with
    position :=
      ⟨if b == lineFeed then s.position.line + 1 else s.position.line,s.position.byte + 1⟩ }

def step (s : Scan) (b : UInt8) : Scan :=
  let s := s.count b
  match s.place with
  | .beforeRecord => if endsRecord b then s else s.firstByte b
  | .fieldStart => s.firstByte b
  | .plain => s.plainByte b
  | .quoted => if b == quote then { s with place := .afterQuote } else s.keep b .quoted
  | .afterQuote => if b == quote then s.keep b .quoted else s.plainByte b

def finish (s : Scan) : Scan :=
  match s.place with
  | .beforeRecord => s
  | _ => s.endRecord

end Scan

def byteOrderMark : Bytes := [0xEF,0xBB,0xBF]

-- The records of a source in order. Where the source breaks off, the record under way is lost;
-- where it ends, it is the last one.
def rawRecords (complete : Bool) (source : Bytes) : List RawRecord :=
  let (skipped,bytes) :=
    if byteOrderMark.isPrefixOf source then (byteOrderMark.length,source.drop 3)
    else (0,source)
  let s := bytes.foldl Scan.step (Scan.initial ⟨1,skipped⟩)
  (if complete then s.finish else s).records.reverse

end DataAccess.Csv
