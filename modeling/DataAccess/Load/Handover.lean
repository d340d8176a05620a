import DataAccess.Load.Loader

-- A load as two halves that run beside each other. One half reads: it hands over the columns that
-- the sample has, and then gathers record after record into chunks, which it sends through a queue
-- that holds only so many. The other half inserts: it waits for the columns, makes the table ready,
-- and takes the chunks out of the queue in their order. The halves take their turns in any order;
-- one that has to wait stays as it is. What a half does between two turns is seen by nobody else.
namespace DataAccess.Load

abbrev Message := Except CsvFault (List Csv.Record)

structure Sampled where
  schema : TableSchema
  records : Nat
  deriving DecidableEq, Repr

-- A full chunk is sent before the next one is begun; behind the last record there may be one message
-- more. A reader that is gone has dropped its ends of both channels, and may have died.
inductive Reading where
  | sampling (document : Csv.Document)
  | gathering (chunk left : List Csv.Record) (fault : Option CsvFault)
  | sending (chunk left : List Csv.Record) (fault : Option CsvFault)
  | closing (last : Message)
  | gone (died : Bool)

inductive Inserting where
  | awaiting
  | opening (schema : TableSchema)
  | receiving (schema : TableSchema) (report : Report)
  | filling (schema : TableSchema) (report : Report) (chunk : List Csv.Record)
  | ended (result : Except Stopped Report)

-- What is handed over of the sample: nothing if the reader dies over it.
def columnsOf (options : Options) (document : Csv.Document) : Option (Except Error Sampled) :=
  match feed options document with
  | .error (.csv .readerStopped) => none
  | .error e => some (.error e)
  | .ok feed => some (.ok ⟨feed.schema,feed.sampled⟩)

namespace Reading

-- How reading goes on behind the sample. The records that were sampled are gathered like all others.
def begin (options : Options) (document : Csv.Document) : Reading :=
  match feed options document with
  | .error (.csv .readerStopped) => .gone true
  | .error _ => .gone false
  | .ok feed =>
    if feed.sampled = 0 then .gone false else .gathering [] document.records document.fault

-- What reading comes to behind the last record. A fault of the source is sent, and drops the chunk
-- under way; one that the reader dies of cannot be sent.
def finish (chunk : List Csv.Record) : Option CsvFault → Reading
  | none => if chunk = [] then .gone false else .closing (.ok chunk)
  | some .readerStopped => .gone true
  | some fault => .closing (.error fault)

def gather (size : Nat) (chunk left : List Csv.Record) (fault : Option CsvFault) : Reading :=
  if chunk.length = size then .sending chunk left fault else .gathering chunk left fault

end Reading

structure Handover (ρ : Type) where
  capacity : Nat
  reading : Reading
  columns : Option (Except Error Sampled)
  queue : List Message
  inserting : Inserting
  db : Db ρ

namespace Handover

def start (capacity : Nat) (document : Csv.Document) (db : Db ρ) : Handover ρ :=
  ⟨capacity,.sampling document,none,[],.awaiting,db⟩

def hasEnded (h : Handover ρ) : Bool :=
  match h.inserting with
  | .ended _ => true
  | _ => false

-- Sending waits for room in the queue, and fails where the other half has ended.
def send (m : Message) (next : Reading) (h : Handover ρ) : Handover ρ :=
  if h.hasEnded then { h with reading := .gone false }
  else if h.queue.length < h.capacity then { h with queue := h.queue ++ [m],reading := next }
  else h

def read (options : Options) (h : Handover ρ) : Handover ρ :=
  match h.reading with
  | .sampling document =>
    { h with columns := columnsOf options document,reading := .begin options document }
  | .gathering chunk [] fault => { h with reading := .finish chunk fault }
  | .gathering chunk (record :: left) fault =>
    { h with reading := .gather options.chunkSize (chunk ++ [record]) left fault }
  | .sending chunk left fault => h.send (.ok chunk) (.gathering [] left fault)
  | .closing last => h.send last (.gone false)
  | .gone _ => h

def work (h : Handover ρ) (task : LoadTask ρ α) (next : α → Inserting) : Handover ρ :=
  match task h.db with
  | (.ok a,db) => { h with inserting := next a,db }
  | (.error e,db) => { h with inserting := .ended (.error e),db }

def await (table : Ident) (h : Handover ρ) : Handover ρ :=
  match h.columns,h.reading with
  | some (.error e),_ => { h with inserting := .ended (.error (.atStart e)) }
  | some (.ok sampled),_ =>
    if sampled.records = 0 then h.work (concludeEmpty table) fun report => .ended (.ok report)
    else { h with inserting := .opening sampled.schema }
  | none,.gone _ => { h with inserting := .ended (.error (.atStart (.csv .readerStopped))) }
  | none,_ => h

-- The queue ends when it is empty and the reader is gone; only then is it asked how it went.
def receive (table : Ident) (schema : TableSchema) (report : Report) (h : Handover ρ) : Handover ρ :=
  match h.queue,h.reading with
  | .ok chunk :: queue,_ => { h with queue,inserting := .filling schema report chunk }
  | .error fault :: queue,_ =>
    { h with queue,inserting := .ended (.error (report.stop (.csv fault))) }
  | [],.gone died =>
    h.work (conclude table report (if died then some .readerStopped else none)) fun report =>
      .ended (.ok report)
  | [],_ => h

def insert (options : Options) (table : Ident) (h : Handover ρ) : Handover ρ :=
  match h.inserting with
  | .awaiting => h.await table
  | .opening schema =>
    h.work (openTable options table schema) fun filled => .receiving filled Report.empty
  | .receiving schema report => h.receive table schema report
  | .filling schema report chunk =>
    h.work (insertChunk options table schema report chunk) (.receiving schema)
  | .ended _ => h

inductive Half where
  | reader
  | inserter
  deriving DecidableEq, Repr

def turn (options : Options) (table : Ident) (h : Handover ρ) : Half → Handover ρ
  | .reader => h.read options
  | .inserter => h.insert options table

def run (options : Options) (table : Ident) (h : Handover ρ) (turns : List Half) : Handover ρ :=
  turns.foldl (turn options table) h

def result? (h : Handover ρ) : Option (Except Stopped Report) :=
  match h.inserting with
  | .ended result => some result
  | _ => none

end Handover

end DataAccess.Load
