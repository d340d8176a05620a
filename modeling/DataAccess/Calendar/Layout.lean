import DataAccess.Calendar.Timestamp
import DataAccess.Number.Integer
import DataAccess.Text.Blank

-- Layouts of dates and times: what stands where in a text. A layout writes a timestamp, and reads
-- one back; reading is the more lenient of the two.
namespace DataAccess.Calendar

inductive Item where
  | year
  | month
  | day
  | hour
  | minute
  | second
  | fraction
  | monthName
  | monthAbbreviation
  | space
  | mark (c : Char)
  deriving DecidableEq, Repr

abbrev Layout := List Item

def monthNames : List String :=
  ["January","February","March","April","May","June","July","August","September",
    "October","November","December"]

def yearText (year : Int) : List Char :=
  if 0 ≤ year ∧ year ≤ 9999 then Number.padded 4 year.toNat
  else (if year < 0 then '-' else '+') :: Number.padded 4 year.natAbs

def twoDigits (n : Nat) : List Char := [Nat.digitChar (n / 10),Nat.digitChar (n % 10)]

def fractionText (nanos : Nat) : List Char :=
  if nanos = 0 then []
  else if nanos % 1_000_000 = 0 then '.' :: Number.padded 3 (nanos / 1_000_000)
  else if nanos % 1000 = 0 then '.' :: Number.padded 6 (nanos / 1000)
  else '.' :: Number.padded 9 nanos

def Item.write (t : Timestamp) : Item → List Char
  | .year => yearText t.date.year
  | .month => Number.padded 2 t.date.month
  | .day => Number.padded 2 t.date.day
  | .hour => Number.padded 2 t.time.hour
  | .minute => Number.padded 2 t.time.minute
  | .second => Number.padded 2 (t.time.second + t.time.nanos / 1_000_000_000)
  | .fraction => fractionText (t.time.nanos % 1_000_000_000)
  | .monthName => ((monthNames[t.date.month - 1]?).getD "").toList
  | .monthAbbreviation => ((monthNames[t.date.month - 1]?).getD "").toList.take 3
  | .space => [' ']
  | .mark c => [c]

def Layout.write (layout : Layout) (t : Timestamp) : List Char :=
  layout.flatMap (Item.write t)

structure Parts where
  year : Option Int
  month : Option Nat
  day : Option Nat
  hour : Option Nat
  minute : Option Nat
  second : Option Nat
  nanos : Option Nat
  deriving DecidableEq, Repr

def Parts.none : Parts := ⟨.none,.none,.none,.none,.none,.none,.none⟩

def takeNumber (width : Nat) (s : List Char) : Option (Nat × List Char) :=
  let digits := (s.take width).takeWhile Char.isDigit
  (Number.digits? digits).map fun n => (n,s.drop digits.length)

-- A number stands after any blanks.
def numberItem (width : Nat) (s : List Char) : Option (Nat × List Char) :=
  takeNumber width (Text.trimStart s)

-- With a sign a year has any number of digits, without one at most four.
def yearItem (s : List Char) : Option (Int × List Char) :=
  match Text.trimStart s with
  | '-' :: rest => (takeNumber rest.length rest).map fun (n,after) => (-(n : Int),after)
  | '+' :: rest => (takeNumber rest.length rest).map fun (n,after) => ((n : Int),after)
  | rest => (takeNumber 4 rest).map fun (n,after) => ((n : Int),after)

-- The fraction is optional; digits after the ninth are passed over.
def fractionItem : List Char → Option (Option Nat × List Char)
  | '.' :: rest =>
    (takeNumber 9 rest).map fun (n,after) =>
      (some (n * Nat.pow 10 (9 - (rest.length - after.length))),after.dropWhile Char.isDigit)
  | s => some (.none,s)

def afterWord? (word s : List Char) : Option (List Char) :=
  if (s.take word.length).map Char.toLower = word.map Char.toLower then
    some (s.drop word.length)
  else .none

-- The first three letters of a month name, and the others too if they are there.
def monthItem (s : List Char) : Option (Nat × List Char) :=
  (monthNames.zipIdx 1).findSome? fun (name,month) =>
    (afterWord? (name.toList.take 3) s).map fun rest =>
      (month,(afterWord? (name.toList.drop 3) rest).getD rest)

def Item.read (parts : Parts) (s : List Char) : Item → Option (Parts × List Char)
  | .year => (yearItem s).map fun (n,rest) => ({ parts with year := some n },rest)
  | .month => (numberItem 2 s).map fun (n,rest) => ({ parts with month := some n },rest)
  | .day => (numberItem 2 s).map fun (n,rest) => ({ parts with day := some n },rest)
  | .hour => (numberItem 2 s).map fun (n,rest) => ({ parts with hour := some n },rest)
  | .minute => (numberItem 2 s).map fun (n,rest) => ({ parts with minute := some n },rest)
  | .second => (numberItem 2 s).map fun (n,rest) => ({ parts with second := some n },rest)
  | .fraction => (fractionItem s).map fun (n,rest) => ({ parts with nanos := n },rest)
  | .monthName | .monthAbbreviation =>
    (monthItem s).map fun (n,rest) => ({ parts with month := some n },rest)
  | .space => some (parts,Text.trimStart s)
  | .mark c =>
    match s with
    | d :: rest => if d = c then some (parts,rest) else .none
    | [] => .none

def Layout.readParts (parts : Parts) (s : List Char) : Layout → Option (Parts × List Char)
  | [] => some (parts,s)
  | item :: items =>
    (item.read parts s).bind fun (next,rest) => Layout.readParts next rest items

def Layout.parts? (layout : Layout) (s : List Char) : Option Parts :=
  match layout.readParts Parts.none s with
  | some (parts,[]) => some parts
  | _ => .none

def Parts.date? (p : Parts) : Option Date :=
  match p.year,p.month,p.day with
  | some year,some month,some day => Date.of? year month day
  | _,_,_ => .none

-- The time of day. Seconds may be left out, and a sixtieth one is a leap second.
def Parts.time? (p : Parts) : Option Time :=
  match p.hour,p.minute,p.second.getD 0 with
  | some hour,some minute,second =>
    if second = 60 then Time.of? hour minute 59 (1_000_000_000 + p.nanos.getD 0)
    else Time.of? hour minute second (p.nanos.getD 0)
  | _,_,_ => .none

def Layout.readDate? (layout : Layout) (s : List Char) : Option Date :=
  (layout.parts? s).bind Parts.date?

def Layout.readTimestamp? (layout : Layout) (s : List Char) : Option Timestamp :=
  (layout.parts? s).bind fun p =>
    match p.date?,p.time? with
    | some date,some time => some ⟨date,time⟩
    | _,_ => .none

end DataAccess.Calendar
