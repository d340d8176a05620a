import DataAccess.Calendar.Date

-- Points in time without a zone: a date and a time of day. A second may be followed by a leap
-- second, which is written as the nanoseconds from one second on.
namespace DataAccess.Calendar

structure Time where
  seconds : Nat
  nanos : Nat
  seconds_lt : seconds < 86400
  nanos_lt : nanos < 2_000_000_000
  deriving DecidableEq

namespace Time

def midnight : Time := ⟨0,0,by decide,by decide⟩

def hour (t : Time) : Nat := t.seconds / 3600
def minute (t : Time) : Nat := t.seconds / 60 % 60
def second (t : Time) : Nat := t.seconds % 60

def isLeap (t : Time) : Bool := 1_000_000_000 ≤ t.nanos

def of? (hour minute second nanos : Nat) : Option Time :=
  if bounds : (hour < 24 ∧ minute < 60 ∧ second < 60) ∧ nanos < 2_000_000_000 then
    some ⟨hour * 3600 + minute * 60 + second,nanos,by omega,bounds.2⟩
  else none

end Time

structure Timestamp where
  date : Date
  time : Time
  deriving DecidableEq

namespace Timestamp

def ofDate (d : Date) : Timestamp := ⟨d,Time.midnight⟩

-- Nanoseconds from the start of 1 January of year 1. A leap second counts like the second after
-- the one it follows.
def nanosNumber (t : Timestamp) : Int :=
  (t.date.number * 86400 + t.time.seconds) * 1_000_000_000 + t.time.nanos

def afterMicros? (day : Int) (micros : Int) : Option Timestamp :=
  let seconds := micros / 1_000_000
  let rest := (micros % 1_000_000).toNat
  (Date.ofNumber? (day + seconds / 86400)).map fun date =>
    ⟨date,(seconds % 86400).toNat,rest * 1000,by omega,by omega⟩

end Timestamp

end DataAccess.Calendar
