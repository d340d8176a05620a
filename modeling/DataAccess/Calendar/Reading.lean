import DataAccess.Calendar.Layout
import DataAccess.Error

-- The layouts in which dates and timestamps are written and looked for. A text is read in the first
-- layout that fits it.
namespace DataAccess.Calendar

def yearMonthDay : Layout := [.year,.mark '-',.month,.mark '-',.day]
def dayMonthYear : Layout := [.day,.mark '-',.month,.mark '-',.year]
def slashedMonthDayYear : Layout := [.month,.mark '/',.day,.mark '/',.year]
def slashedYearMonthDay : Layout := [.year,.mark '/',.month,.mark '/',.day]
def namedMonthDayYear : Layout := [.monthName,.space,.day,.mark ',',.space,.year]
def namedDayMonthYear : Layout := [.day,.space,.monthName,.space,.year]

def dateLayouts : List Layout :=
  [yearMonthDay,dayMonthYear,slashedMonthDayYear,slashedYearMonthDay,namedMonthDayYear,
    namedDayMonthYear]

def compactDate? (s : List Char) : Option Date :=
  match Number.digits? (s.take 4),Number.digits? ((s.drop 4).take 2),
      Number.digits? ((s.drop 6).take 2) with
  | some year,some month,some day => Date.of? year month day
  | _,_,_ => none

-- Reads a date. Eight digits are always read as a compact date, and blanks around the text do
-- not count.
def readDate? (text : String) : Option Date :=
  let s := Text.trim text.toList
  if s.length = 8 ∧ s.all Char.isDigit then compactDate? s
  else dateLayouts.findSome? fun layout => layout.readDate? s

def parseDate (text : String) : Except Error Date :=
  match readDate? text with
  | some d => .ok d
  | none => .error (.validation (.unknownDate text))

def clock : Layout := [.hour,.mark ':',.minute,.mark ':',.second,.fraction]

def dateAndTime : Layout := yearMonthDay ++ .space :: clock

def timestampLayouts : List Layout :=
  [dateAndTime,yearMonthDay ++ .mark 'T' :: clock,
    yearMonthDay ++ [.space,.hour,.mark ':',.minute]]

def readTimestamp? (text : String) : Option Timestamp :=
  let s := Text.trim text.toList
  (timestampLayouts.findSome? fun layout => layout.readTimestamp? s).or
    ((readDate? text).map Timestamp.ofDate)

def Date.text (d : Date) : List Char := yearMonthDay.write (Timestamp.ofDate d)

-- How a date writes itself where no layout is asked for.
def Date.plain (d : Date) : List Char :=
  let year :=
    if 0 ≤ d.year ∧ d.year ≤ 9999 then
      twoDigits (d.year.toNat / 100) ++ twoDigits (d.year.toNat % 100)
    else (if d.year < 0 then '-' else '+') :: Number.padded 4 d.year.natAbs
  year ++ '-' :: twoDigits d.month ++ '-' :: twoDigits d.day

def Timestamp.text (t : Timestamp) : List Char := dateAndTime.write t

end DataAccess.Calendar
