-- Dates of the proleptic Gregorian calendar, and their numbering by days.
namespace DataAccess.Calendar

def isLeapYear (year : Int) : Bool :=
  year % 4 = 0 && (year % 100 ≠ 0 || year % 400 = 0)

def daysInMonth (year : Int) : Nat → Nat
  | 2 => if isLeapYear year then 29 else 28
  | 4 | 6 | 9 | 11 => 30
  | _ => 31

def leastYear : Int := -262143
def greatestYear : Int := 262142

def IsDate (year : Int) (month day : Nat) : Prop :=
  (leastYear ≤ year ∧ year ≤ greatestYear) ∧ (1 ≤ month ∧ month ≤ 12) ∧
    1 ≤ day ∧ day ≤ daysInMonth year month

instance (year : Int) (month day : Nat) : Decidable (IsDate year month day) := by
  unfold IsDate; infer_instance

structure Date where
  year : Int
  month : Nat
  day : Nat
  valid : IsDate year month day
  deriving DecidableEq

def Date.of? (year : Int) (month day : Nat) : Option Date :=
  if valid : IsDate year month day then some ⟨year,month,day,valid⟩ else none

-- Days from 1 January of year 1 to 1 January of a year.
def yearStart (year : Int) : Int :=
  let y := year - 1
  365 * y + y / 4 - y / 100 + y / 400

def monthStart (year : Int) : Nat → Nat
  | 0 => 0
  | 1 => 0
  | month + 1 => monthStart year month + daysInMonth year month

def Date.number (d : Date) : Int :=
  yearStart d.year + monthStart d.year d.month + (d.day - 1 : Nat)

-- A year from the mean length of a year, put right by at most one.
def yearOfNumber (number : Int) : Int :=
  let guess := number * 400 / 146097 + 1
  if number < yearStart guess then guess - 1
  else if yearStart (guess + 1) ≤ number then guess + 1
  else guess

def monthAndDay (year : Int) (month left : Nat) : Nat → Nat × Nat
  | 0 => (month,left + 1)
  | months + 1 =>
    if left < daysInMonth year month then (month,left + 1)
    else monthAndDay year (month + 1) (left - daysInMonth year month) months

def Date.ofNumber? (number : Int) : Option Date :=
  let year := yearOfNumber number
  let (month,day) := monthAndDay year 1 (number - yearStart year).toNat 11
  Date.of? year month day

end DataAccess.Calendar
