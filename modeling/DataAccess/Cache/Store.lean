import DataAccess.Cache.Key

-- The store of results. A key leads to a slot, and a slot has a cell, which is filled at most once.
-- Of the calls that want an empty cell filled, one holds the permit to compute and the others stand
-- in a queue; a slot that no key leads to any more keeps its cell for the calls that still have it.
namespace DataAccess.Cache

structure Entry (κ α : Type) where
  kind : κ
  value : α
  deriving DecidableEq

structure Cell (κ α : Type) where
  entry : Option (Entry κ α)
  holder : Option Nat
  queue : List Nat
  deriving DecidableEq

def Cell.empty : Cell κ α := ⟨none,none,[]⟩

-- Slots are numbered in the order in which they are made.
structure Store (κ α : Type) where
  slots : List (Key × Nat)
  cells : List (Cell κ α)
  hits : Nat
  misses : Nat
  deriving DecidableEq

namespace Store

def empty : Store κ α := ⟨[],[],0,0⟩

def slot? (s : Store κ α) (key : Key) : Option Nat := s.slots.lookup key

def cell (s : Store κ α) (slot : Nat) : Cell κ α := (s.cells[slot]?).getD Cell.empty

def entry? (s : Store κ α) (slot : Nat) : Option (Entry κ α) := (s.cell slot).entry

def find? (s : Store κ α) (key : Key) : Option (Entry κ α) := (s.slot? key).bind s.entry?

def contains (s : Store κ α) (key : Key) : Bool := (s.find? key).isSome

def entryCount (s : Store κ α) : Nat :=
  (s.slots.filter fun place => (s.entry? place.2).isSome).length

def countHit (s : Store κ α) : Store κ α := { s with hits := s.hits + 1 }

def countMiss (s : Store κ α) : Store κ α := { s with misses := s.misses + 1 }

-- Leads a key to a slot of its own, with this cell.
def newSlot (s : Store κ α) (key : Key) (cell : Cell κ α) : Store κ α :=
  { s with
    slots := s.slots.filter (·.1 ≠ key) ++ [(key,s.cells.length)]
    cells := s.cells ++ [cell] }

def slotFor (s : Store κ α) (key : Key) : Store κ α × Nat :=
  match s.slot? key with
  | some slot => (s,slot)
  | none => (s.newSlot key Cell.empty,s.cells.length)

def setCell (s : Store κ α) (slot : Nat) (cell : Cell κ α) : Store κ α :=
  { s with cells := s.cells.set slot cell }

def hold (s : Store κ α) (slot call : Nat) : Store κ α :=
  s.setCell slot { s.cell slot with holder := some call }

def await (s : Store κ α) (slot call : Nat) : Store κ α :=
  s.setCell slot { s.cell slot with queue := (s.cell slot).queue ++ [call] }

def fill (s : Store κ α) (slot : Nat) (entry : Entry κ α) : Store κ α :=
  s.setCell slot ⟨some entry,none,[]⟩

-- Passes the permit on to the call that has waited longest, if there is one.
def passOn (s : Store κ α) (slot : Nat) : Store κ α :=
  s.setCell slot ⟨(s.cell slot).entry,(s.cell slot).queue.head?,(s.cell slot).queue.tail⟩

def replace (s : Store κ α) (key : Key) (entry : Entry κ α) : Store κ α :=
  s.newSlot key ⟨some entry,none,[]⟩

-- Takes an empty slot away from its key, if the key still leads to it.
def discardEmpty (s : Store κ α) (key : Key) (slot : Nat) : Store κ α :=
  if s.slot? key = some slot ∧ (s.entry? slot).isNone then
    { s with slots := s.slots.filter (·.1 ≠ key) }
  else s

def invalidate (s : Store κ α) (model : Option String) : Store κ α × Nat :=
  let kept :=
    match model with
    | none => []
    | some name => s.slots.filter (·.1.model ≠ name)
  ({ s with slots := kept },s.slots.length - kept.length)

def describe (s : Store κ α) : String :=
  "QueryCache \x7b stats: CacheStats \x7b hits: " ++ toString s.hits ++ ", misses: "
    ++ toString s.misses ++ ", entries: " ++ toString s.entryCount ++ " \x7d \x7d"

end Store

end DataAccess.Cache
