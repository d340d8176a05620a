import DataAccess.Error

-- The settings of a load, and what a load reports.
namespace DataAccess.Load

structure Options where
  chunkSize : Nat
  sampleSize : Nat
  dropIfExists : Bool
  createIfNotExists : Bool
  autoIncrement : Bool
  logCreateTableQuery : Bool
  logInsertQuery : Bool
  deriving DecidableEq, Repr

namespace Options

def standard : Options := ⟨1000,100,false,true,false,false,false⟩

def validate (options : Options) : Except Error Unit :=
  if options.chunkSize = 0 then .error (.validation .zeroChunk)
  else if options.sampleSize = 0 then .error (.configuration .zeroSample)
  else .ok ()

end Options

def maxCount : Nat := UInt64.size - 1

-- How many parameters a full chunk binds; a product beyond the greatest count is that.
def boundByChunk (chunkSize columns : Nat) : Nat := min (chunkSize * columns) maxCount

def checkBindLimit (chunkSize columns : Nat) : Except Error Unit :=
  if maxParameters < boundByChunk chunkSize columns then
    .error (.validation (.chunkTooLarge chunkSize columns (boundByChunk chunkSize columns)))
  else .ok ()

structure Report where
  rowsInserted : UInt64
  batches : Nat
  deriving DecidableEq, Repr

namespace Report

def empty : Report := ⟨0,0⟩

def add (report : Report) (affected : UInt64) : Report :=
  ⟨report.rowsInserted + affected,report.batches + 1⟩

end Report

-- A load that stopped: what was inserted before stays inserted.
structure Stopped where
  committed : UInt64
  cause : Error
  deriving DecidableEq, Repr

namespace Stopped

def atStart (cause : Error) : Stopped := ⟨0,cause⟩

def message (stopped : Stopped) : String :=
  s!"bulk load stopped after {stopped.committed.toNat} committed rows: " ++ stopped.cause.message

end Stopped

def Report.stop (report : Report) (cause : Error) : Stopped := ⟨report.rowsInserted,cause⟩

end DataAccess.Load
