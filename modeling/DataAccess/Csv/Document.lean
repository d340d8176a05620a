import DataAccess.Csv.Scan
import DataAccess.Error

-- A CSV source as a header with records. All records are text and have as many fields as the
-- header; the first record that is not so, or the failure of the source itself, is the fault with
-- which the document ends.
namespace DataAccess.Csv
open Text

inductive Ending where
  | complete
  | failed (reason : String)
  | died
  deriving DecidableEq, Repr

def Ending.fault? : Ending → Option CsvFault
  | complete => none
  | failed reason => some (.sourceFailed reason)
  | died => some .readerStopped

structure Source where
  bytes : Bytes
  ending : Ending
  deriving DecidableEq, Repr

structure Record where
  fields : List String
  line : Nat
  deriving DecidableEq, Repr

structure Document where
  header : Except CsvFault (List String)
  records : List Record
  fault : Option CsvFault

def decodeFields (index : Nat) : List Bytes → Except (Nat × Nat) (List String)
  | [] => .ok []
  | field :: fields =>
    match ofUtf8? field with
    | none => .error (index,validUpTo field)
    | some s =>
      match decodeFields (index + 1) fields with
      | .error e => .error e
      | .ok ss => .ok (s :: ss)

def RawRecord.decode (number : Nat) (raw : RawRecord) : Except CsvFault (List String) :=
  match decodeFields 0 raw.fields with
  | .ok fields => .ok fields
  | .error (field,byte) =>
    .error (.invalidText number raw.position.line field raw.position.byte byte)

-- A record that has to have so many fields.
def RawRecord.check (number width : Nat) (raw : RawRecord) : Except CsvFault Record :=
  if raw.fields.length ≠ width then
    .error (.unequalLengths number raw.position.line raw.position.byte raw.fields.length width)
  else
    match raw.decode number with
    | .error fault => .error fault
    | .ok fields => .ok ⟨fields,raw.position.line⟩

def checkAll (width : Nat) (fault : Option CsvFault) :
    Nat → List RawRecord → List Record × Option CsvFault
  | _,[] => ([],fault)
  | number,raw :: raws =>
    match raw.check number width with
    | .error fault => ([],some fault)
    | .ok record =>
      let (records,fault) := checkAll width fault (number + 1) raws
      (record :: records,fault)

def Source.document (source : Source) : Document :=
  let fault := source.ending.fault?
  match rawRecords fault.isNone source.bytes with
  | [] =>
    match fault with
    | some fault => ⟨.error fault,[],none⟩
    | none => ⟨.ok [],[],none⟩
  | header :: raws =>
    let (records,fault) := checkAll header.fields.length fault 1 raws
    ⟨header.decode 0,records,fault⟩

end DataAccess.Csv
