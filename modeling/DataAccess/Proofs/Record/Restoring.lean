import DataAccess.Proofs.Calendar.ReadingBack
import DataAccess.Proofs.Record.Coercion

-- Values that are kept as text. A text field takes every value as the text that it displays, and a
-- field of the value's own type reads it from there again, whatever blanks stand around it. This is
-- so for truth values, whole numbers, dates and timestamps; a leap second has to be the last one of
-- its minute.
namespace DataAccess
open Calendar Number

namespace Calendar
open Number Text

theorem Time.of?_self (t : Time) : Time.of? t.hour t.minute t.second t.nanos = some t := by
  obtain ⟨seconds,nanos,seconds_lt,nanos_lt⟩ := t
  have whole : seconds / 3600 * 3600 + seconds / 60 % 60 * 60 + seconds % 60 = seconds := by omega
  have bounds : (seconds / 3600 < 24 ∧ seconds / 60 % 60 < 60 ∧ seconds % 60 < 60) ∧
      nanos < 2_000_000_000 := by omega
  simp only [of?,hour,minute,second,whole]
  exact dif_pos bounds

-- The leap seconds that a clock can show: those after the last second of a minute.
def Time.IsShown (t : Time) : Prop := t.isLeap = true → t.second = 59

theorem time?_write {t : Timestamp} (shown : t.time.IsShown) :
    (dateAndTime.foldl (Item.put t) Parts.none).time? = some t.time := by
  have nanos : (dateAndTime.foldl (Item.put t) Parts.none).nanos.getD 0 =
      t.time.nanos % 1_000_000_000 := by
    change (if t.time.nanos % 1_000_000_000 = 0 then none
      else some (t.time.nanos % 1_000_000_000)).getD 0 = _
    split
    · rename_i zero
      exact zero.symm
    · rfl
  change (if t.time.second + t.time.nanos / 1_000_000_000 = 60 then
      Time.of? t.time.hour t.time.minute 59 (1_000_000_000 + Option.getD _ 0)
    else Time.of? t.time.hour t.time.minute (t.time.second + t.time.nanos / 1_000_000_000)
      (Option.getD _ 0)) = _
  rw [nanos]
  have fits := t.time.nanos_lt
  have within : t.time.second < 60 := Nat.mod_lt _ (by decide)
  by_cases leap : t.time.isLeap = true
  · have last := shown leap
    have beyond : 1_000_000_000 ≤ t.time.nanos := of_decide_eq_true leap
    rw [if_pos (by omega),show 1_000_000_000 + t.time.nanos % 1_000_000_000 = t.time.nanos by omega,← last]
    exact t.time.of?_self
  · have before : ¬ 1_000_000_000 ≤ t.time.nanos := fun beyond => leap (decide_eq_true beyond)
    rw [if_neg (by omega),show t.time.second + t.time.nanos / 1_000_000_000 = t.time.second by omega,
      Nat.mod_eq_of_lt (by omega)]
    exact t.time.of?_self

theorem fractionText_plain (nanos : Nat) : ∀ c ∈ fractionText nanos, isBlank c = false := by
  have dotted (width n : Nat) : ∀ c ∈ '.' :: padded width n, isBlank c = false :=
    List.forall_mem_cons.mpr ⟨rfl,(padded_solid width n).plain⟩
  unfold fractionText
  split
  · simp
  · split
    · exact dotted _ _
    · split
      · exact dotted _ _
      · exact dotted _ _

theorem Timestamp.text_trimmed (t : Timestamp) : Trimmed t.text := by
  have year : Solid (Item.write t .year) := Item.write_solid rfl t
  have second : Solid (Item.write t .second) := Item.write_solid rfl t
  have last : Solid (Item.write t .second ++ Item.write t .fraction) :=
    ⟨List.append_ne_nil_of_left_ne_nil second.some _,
      List.forall_mem_append.mpr ⟨second.plain,fractionText_plain _⟩⟩
  have middle := year.around last (Layout.write
    [.mark '-',.month,.mark '-',.day,.space,.hour,.mark ':',.minute,.mark ':'] t)
  simpa [text,Layout.write,dateAndTime,yearMonthDay,clock] using middle

theorem readTimestamp?_text {t : Timestamp} (shown : t.time.IsShown) :
    readTimestamp? (String.ofList t.text) = some t := by
  have read : dateAndTime.readTimestamp? t.text = some t := by
    have date : (dateAndTime.foldl (Item.put t) Parts.none).date? = some t.date := dif_pos t.date.valid
    rw [Layout.readTimestamp?,Timestamp.text,Layout.parts?_write rfl,Option.bind_some,date,time?_write shown]
  rw [readTimestamp?,String.toList_ofList,t.text_trimmed.trim,timestampLayouts,List.findSome?_cons,read]
  rfl

theorem readDate?_text (d : Date) : readDate? (String.ofList d.text) = some d := by
  have trimmed : Trimmed d.text := Layout.write_trimmed rfl _
  have marked : ¬ (d.text.length = 8 ∧ d.text.all Char.isDigit = true) := Layout.write_not_digits rfl _
  have read : yearMonthDay.readDate? d.text = some d := Layout.readDate?_write rfl d rfl
  rw [readDate?,String.toList_ofList,trimmed.trim,if_neg marked,dateLayouts,List.findSome?_cons,read]

end Calendar

namespace FieldType

-- What a text is converted to does not depend on the blanks around it, unless it is to stay a text.
theorem convert?_same_trim {type : FieldType} (other : type ≠ .text) {a b : String}
    (same : Text.trim a.toList = Text.trim b.toList) :
    type.convert? (.text a) = type.convert? (.text b) := by
  have date : readDate? a = readDate? b := by rw [readDate?,readDate?,same]
  cases type with
  | bool => simp only [convert?,toBool?,readBool?,same]
  | int => simp only [convert?,toInt?,same]
  | float => simp only [convert?,toFloat?,same]
  | text => exact absurd rfl other
  | date => simp only [convert?,toDate?,date]
  | timestamp => simp only [convert?,toTimestamp?,readTimestamp?,date,same]

end FieldType

-- The values that are kept whole in a text, with the types that read them there.
inductive Value.Restorable : FieldType → Value → Prop
  | bool (b : Bool) : Restorable .bool (.bool b)
  | int (n : Int64) : Restorable .int (.int n)
  | date (d : Date) : Restorable .date (.date d)
  | timestamp (shown : t.time.IsShown) : Restorable .timestamp (.timestamp t)

namespace Value.Restorable
variable {type : FieldType} {v : Value}

theorem display_trimmed (restorable : Restorable type v) : Text.Trimmed v.display.toList := by
  cases restorable with
  | bool b =>
    constructor
    · cases b <;> rintro c ⟨⟩ <;> rfl
    · cases b <;> rintro c ⟨⟩ <;> rfl
  | int n => exact (toString_solid n.toInt).trimmed
  | date d =>
    rw [display,String.toList_ofList]
    exact Layout.write_trimmed rfl _
  | timestamp shown =>
    rw [display,String.toList_ofList]
    exact Timestamp.text_trimmed _

theorem convert?_display (restorable : Restorable type v) : type.convert? (.text v.display) = some v := by
  cases restorable with
  | bool b => cases b <;> decide
  | int n =>
    have read : readInt64? (Text.trim (display (.int n)).toList) = some n := by
      rw [display,(toString_solid n.toInt).trimmed.trim,readInt64?_toString]
    rw [FieldType.convert?,FieldType.toInt?,read,Option.map_some]
  | date d => rw [display,FieldType.convert?,FieldType.toDate?,readDate?_text,Option.map_some]
  | timestamp shown =>
    rw [display,FieldType.convert?,FieldType.toTimestamp?,readTimestamp?_text shown,Option.map_some]

theorem type_not_text (restorable : Restorable type v) : type ≠ .text := by
  cases restorable <;> decide

theorem isNull (restorable : Restorable type v) : v.isNull = false := by
  cases restorable <;> rfl

end Value.Restorable

theorem texts_restore {v : Value} (label field : Field) (kept : label.type = .text)
    (restorable : v.Restorable field.type) :
    ∃ s, label.coerce v = .ok (.text s) ∧ field.coerce (.text s) = .ok v ∧
      ∀ before after, Text.isAllBlank before = true → Text.isAllBlank after = true →
        field.coerce (.text (before ++ s ++ after)) = .ok v := by
  refine ⟨v.display,?_,Field.coerce_converted rfl restorable.convert?_display,
    fun before after leading trailing => ?_⟩
  · have written : label.type.convert? v = some (.text v.display) := by rw [kept,FieldType.convert?]
    exact Field.coerce_converted restorable.isNull written
  · have trim : Text.trim (before ++ v.display ++ after).toList = Text.trim v.display.toList := by
      rw [String.toList_append,String.toList_append,restorable.display_trimmed.trim]
      exact restorable.display_trimmed.trim_around (List.all_eq_true.mp leading)
        (List.all_eq_true.mp trailing)
    exact Field.coerce_converted rfl
      ((FieldType.convert?_same_trim restorable.type_not_text trim).trans restorable.convert?_display)

-- The leap second at the end of a year before year 0.
theorem texts_restore_leap :
    (⟨0,"note",.text,false⟩ : Field).coerce
        (.timestamp ⟨⟨-5,12,31,by decide⟩,⟨86399,1_250_000_000,by decide,by decide⟩⟩) =
      .ok (.text "-0005-12-31 23:59:60.250") ∧
    (⟨1,"seen",.timestamp,true⟩ : Field).coerce (.text "\t-0005-12-31 23:59:60.250 \n") =
      .ok (.timestamp ⟨⟨-5,12,31,by decide⟩,⟨86399,1_250_000_000,by decide,by decide⟩⟩) := by
  have written : (⟨0,"note",.text,false⟩ : Field).coerce
        (.timestamp ⟨⟨-5,12,31,by decide⟩,⟨86399,1_250_000_000,by decide,by decide⟩⟩) =
      .ok (.text "-0005-12-31 23:59:60.250") := by decide +kernel
  refine ⟨written,?_⟩
  have shown : Time.IsShown ⟨86399,1_250_000_000,by decide,by decide⟩ := fun _ => by decide
  have restorable : Value.Restorable .timestamp
      (.timestamp ⟨⟨-5,12,31,by decide⟩,⟨86399,1_250_000_000,by decide,by decide⟩⟩) := .timestamp shown
  obtain ⟨s,kept,_,around⟩ :=
    texts_restore ⟨0,"note",.text,false⟩ ⟨1,"seen",.timestamp,true⟩ rfl restorable
  cases written.symm.trans kept
  exact around "\t" " \n" (by decide) (by decide)

end DataAccess
