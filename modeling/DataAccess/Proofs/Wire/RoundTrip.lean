import DataAccess.Proofs.Calendar.Numbering
import DataAccess.Proofs.Calendar.Texts
import DataAccess.Proofs.Text.Encoding
import DataAccess.Proofs.Wire.Words
import DataAccess.Wire.Decode

-- What comes back of a value that is sent in a type and read in it again. A value of the type's own
-- kind comes back as it was, numbers and dates that are sent as text come back as what they
-- display, and nothing is cut off to make it fit.
namespace DataAccess.Wire
open Calendar Number Text

-- The types that values come back from.
def exchanged : List ServerType :=
  [.bool,.int2,.int4,.int8,.float8,.text,.varchar,.bpchar,.name,.date,.timestamp,.timestamptz]

-- The bytes that a whole number has in a type of whole numbers.
def wholeWidth? : ServerType → Option Nat
  | .int2 => some 2
  | .int4 => some 4
  | .int8 => some 8
  | _ => none

-- The kinds that a column of text takes beside text.
def IsWritten : Value → Prop
  | .int _ | .float _ | .date _ => True
  | _ => False

-- What a value that is sent in a type is to be when it comes back.
inductive Returns : ServerType → Value → Value → Prop where
  | null (known : type ∈ exchanged) : Returns type .null .null
  | bool (b : Bool) : Returns .bool (.bool b) (.bool b)
  | int (n : Int64) (whole : wholeWidth? type = some width) : Returns type (.int n) (.int n)
  | float (x : Double) : Returns .float8 (.float x) (.float x)
  | text (s : String) (holds : type.isText ∨ type = .name) : Returns type (.text s) (.text s)
  | date (d : Date) : Returns .date (.date d) (.date d)
  | timestamp (t : Timestamp) (holds : type = .timestamp ∨ type = .timestamptz)
      (whole : t.time.IsMicros) : Returns type (.timestamp t) (.timestamp t)
  | written (holds : type.isText) (kind : IsWritten v) : Returns type v (.text v.display)

def Binds (type : ServerType) (v : Value) : Prop := ∃ bytes, encode type v = .ok (some bytes)

def Refuses (type : ServerType) (v : Value) : Prop := ∃ fault, encode type v = .error fault

theorem int64_signed (n : Int64) : Signed 8 n.toInt := by
  have low := n.le_toInt
  have high := n.toInt_lt
  have many : words 8 = 18446744073709551616 := by decide
  unfold Signed
  omega

section Counting

variable {width : Nat}

theorem encodeInt_fits {n : Int64} (fits : Signed width n.toInt) :
    encodeInt width n = .ok (ofInt width n.toInt) := by
  obtain ⟨low,high⟩ := fits
  rw [encodeInt,if_neg (by omega),if_neg (by omega)]

theorem encodeInt_misfits {n : Int64} (misfits : ¬Signed width n.toInt) :
    ∃ fault, encodeInt width n = .error fault := by
  unfold Signed at misfits
  by_cases large : (words width : Int) ≤ 2 * n.toInt
  · exact ⟨.tooLarge,if_pos large⟩
  · exact ⟨.tooSmall,by rw [encodeInt,if_neg large,if_pos (by omega)]⟩

theorem decodeInt_ofInt {n : Int64} (fits : Signed width n.toInt) :
    decodeInt width (ofInt width n.toInt) = some (.int n) := by
  rw [decodeInt,signed?_ofInt fits,Option.map_some,Int64.ofInt_toInt]

-- A whole number is sent in a type of whole numbers exactly if it fits, and then as it is.
theorem encode_fits (whole : wholeWidth? type = some width) {n : Int64}
    (fits : Signed width n.toInt) : encode type (.int n) = .ok (some (ofInt width n.toInt)) := by
  cases type with
  | int2 | int4 =>
    cases whole
    exact congrArg (Except.map some) (encodeInt_fits fits)
  | int8 =>
    cases whole
    rfl
  | _ => cases whole

theorem encode_misfits (whole : wholeWidth? type = some width) {n : Int64}
    (misfits : ¬Signed width n.toInt) : Refuses type (.int n) := by
  obtain ⟨fault,failed⟩ := encodeInt_misfits misfits
  cases type with
  | int2 | int4 =>
    cases whole
    exact ⟨fault,congrArg (Except.map some) failed⟩
  | int8 =>
    cases whole
    exact absurd (int64_signed n) misfits
  | _ => cases whole

theorem decoder?_whole (whole : wholeWidth? type = some width) :
    decoder? type = some (decodeInt width) := by
  cases type with
  | int2 | int4 | int8 => cases whole; rfl
  | _ => cases whole

end Counting

-- No date of the calendar is too far from the epoch, and no timestamp.
theorem date_signed (d : Date) : Signed 4 (d.number - epochDay) := by
  have range := d.number_range
  have many : words 4 = 4294967296 := by decide
  unfold Signed epochDay
  omega

theorem timestamp_signed (t : Timestamp) : Signed 8 (microsFromEpoch t) := by
  have range := t.date.number_range
  have seconds := t.time.seconds_lt
  have nanos := t.time.nanos_lt
  have many : words 8 = 18446744073709551616 := by decide
  have one : Int.sign 1000 = 1 := rfl
  unfold Signed microsFromEpoch Timestamp.nanosNumber epochDay
  rw [Int.tdiv_eq_ediv,one]
  split <;> omega

theorem microsFromEpoch_whole {t : Timestamp} (whole : t.time.IsMicros) : microsFromEpoch t =
    ((t.date.number - epochDay) * 86400 + t.time.seconds) * 1_000_000 + t.time.nanos / 1000 := by
  have micros := whole.2
  unfold microsFromEpoch Timestamp.nanosNumber
  rw [Int.tdiv_eq_ediv_of_dvd (by omega)]
  omega

theorem encodeCount_fits {n : Int} (fits : Signed width n) :
    encodeCount width n = .ok (ofInt width n) := if_pos fits

-- Every date is sent, and every timestamp.
theorem encode_date (d : Date) :
    encode .date (.date d) = .ok (some (ofInt 4 (d.number - epochDay))) :=
  congrArg (Except.map some) (encodeCount_fits (date_signed d))

theorem encode_timestamp (holds : type = .timestamp ∨ type = .timestamptz) (t : Timestamp) :
    encode type (.timestamp t) = .ok (some (ofInt 8 (microsFromEpoch t))) := by
  rcases holds with rfl | rfl <;>
    exact congrArg (Except.map some) (encodeCount_fits (timestamp_signed t))

theorem decodeDate_ofInt (d : Date) : decodeDate (ofInt 4 (d.number - epochDay)) = some (.date d) := by
  rw [decodeDate,signed?_ofInt (date_signed d),Option.bind_some,
    show epochDay + (d.number - epochDay) = d.number by omega,Date.ofNumber?_number]
  rfl

theorem decodeTimestamp_ofInt {t : Timestamp} (whole : t.time.IsMicros) :
    decodeTimestamp (ofInt 8 (microsFromEpoch t)) = some (.timestamp t) := by
  rw [decodeTimestamp,signed?_ofInt (timestamp_signed t),Option.bind_some,
    microsFromEpoch_whole whole,Timestamp.afterMicros?_eq whole]
  rfl

theorem written_display (v : Value) : written v = v.display := by
  cases v with
  | date d => exact congrArg String.ofList d.plain_eq
  | _ => rfl

theorem encode_text {type : ServerType} (holds : type.isText) {v : Value}
    (kind : IsWritten v ∨ ∃ s, v = .text s) : encode type v = .ok (some (utf8 v.display)) := by
  rw [← written_display]
  cases type with
  | text | varchar | bpchar =>
    rcases kind with kind | ⟨s,rfl⟩
    · cases v with
      | int | float | date => rfl
      | _ => exact kind.elim
    · rfl
  | _ => cases holds

theorem decodeCell_read {column : Column} {decode : Bytes → Option Value}
    (known : decoder? column.type = some decode) (read : decode bytes = some v) (index : Nat) :
    decodeCell column index (some bytes) = .ok v := by
  simp only [decodeCell,known,read]

theorem decodeCell_text {column : Column} (holds : column.type.isText ∨ column.type = .name)
    (index : Nat) (s : String) : decodeCell column index (some (utf8 s)) = .ok (.text s) := by
  have read : (ofUtf8? (utf8 s)).map Value.text = some (.text s) := by rw [ofUtf8?_utf8]; rfl
  obtain ⟨name,type⟩ := column
  cases type with
  | text | varchar | bpchar | name => exact decodeCell_read rfl read index
  | _ => rcases holds with text | name <;> contradiction

theorem decoder?_exchanged : ∀ type ∈ exchanged, (decoder? type).isSome = true := by decide

theorem Returns.comes {column : Column} (returns : Returns column.type v back)
    (sent : encode column.type v = .ok cell) (index : Nat) :
    decodeCell column index cell = .ok back := by
  obtain ⟨name,type⟩ := column
  cases returns with
  | null known =>
    obtain ⟨decode,read⟩ := Option.isSome_iff_exists.mp (decoder?_exchanged type known)
    cases sent
    simp only [decodeCell,read]
  | bool b =>
    cases sent
    cases b <;> rfl
  | @int _ width n whole =>
    by_cases fits : Signed width n.toInt
    · rw [encode_fits whole fits] at sent
      cases sent
      exact decodeCell_read (decoder?_whole whole) (decodeInt_ofInt fits) index
    · obtain ⟨fault,refused⟩ := encode_misfits whole fits
      cases sent.symm.trans refused
  | float x =>
    have read : (word? 8 (encodeDouble x)).map (fun n => Value.float ⟨UInt64.ofNat n⟩) =
        some (.float x) := by
      rw [encodeDouble,word?_ofNat x.bits.toNat_lt,Option.map_some,UInt64.ofNat_toNat]
    cases sent
    exact decodeCell_read rfl read index
  | text s holds =>
    have utf : encode type (.text s) = .ok (some (utf8 s)) := by
      rcases holds with text | rfl
      · exact encode_text text (.inr ⟨s,rfl⟩)
      · rfl
    cases sent.symm.trans utf
    exact decodeCell_text holds index s
  | date d =>
    cases sent.symm.trans (encode_date d)
    exact decodeCell_read rfl (decodeDate_ofInt d) index
  | timestamp t holds whole =>
    cases sent.symm.trans (encode_timestamp holds t)
    rcases holds with rfl | rfl <;> exact decodeCell_read rfl (decodeTimestamp_ofInt whole) index
  | written holds kind =>
    cases sent.symm.trans (encode_text holds (.inl kind))
    exact decodeCell_text (.inl holds) index _

-- A whole number is sent in so many bytes exactly if it fits into them, and refused otherwise.
theorem binds_whole (whole : wholeWidth? type = some width) (n : Int64) :
    (Binds type (.int n) ↔ Signed width n.toInt) ∧ (Refuses type (.int n) ↔ ¬Signed width n.toInt) := by
  by_cases fits : Signed width n.toInt
  · have sent := encode_fits whole fits
    refine ⟨iff_of_true ⟨_,sent⟩ fits,iff_of_false ?_ (not_not_intro fits)⟩
    rintro ⟨fault,refused⟩
    cases sent.symm.trans refused
  · obtain ⟨fault,refused⟩ := encode_misfits whole fits
    refine ⟨iff_of_false ?_ fits,iff_of_true ⟨fault,refused⟩ fits⟩
    rintro ⟨bytes,sent⟩
    cases sent.symm.trans refused

theorem signed_two (n : Int) : Signed 2 n ↔ -32768 ≤ n ∧ n < 32768 := by
  have many : words 2 = 65536 := by decide
  unfold Signed
  omega

theorem signed_four (n : Int) : Signed 4 n ↔ -2147483648 ≤ n ∧ n < 2147483648 := by
  have many : words 4 = 4294967296 := by decide
  unfold Signed
  omega

-- What is sent comes back from a column of its type. Whole numbers are sent in two and in four
-- bytes exactly if they fit, and all dates and timestamps are.
theorem sent_values_return (column : Column) (index : Nat) :
    (∀ v cell back, encode column.type v = .ok cell → Returns column.type v back →
      decodeCell column index cell = .ok back) ∧
    encode column.type .null = .ok none ∧
    (∀ n : Int64, (Binds .int2 (.int n) ↔ -32768 ≤ n.toInt ∧ n.toInt < 32768) ∧
      (Refuses .int2 (.int n) ↔ ¬(-32768 ≤ n.toInt ∧ n.toInt < 32768))) ∧
    (∀ n : Int64, (Binds .int4 (.int n) ↔ -2147483648 ≤ n.toInt ∧ n.toInt < 2147483648) ∧
      (Refuses .int4 (.int n) ↔ ¬(-2147483648 ≤ n.toInt ∧ n.toInt < 2147483648))) ∧
    (∀ d, Binds .date (.date d)) ∧
    ∀ t type, type = .timestamp ∨ type = .timestamptz → Binds type (.timestamp t) := by
  refine ⟨fun v cell back sent returns => returns.comes sent index,rfl,fun n => ?_,fun n => ?_,
    fun d => ⟨_,encode_date d⟩,fun t type holds => ⟨_,encode_timestamp holds t⟩⟩
  · rw [← signed_two]
    exact binds_whole rfl n
  · rw [← signed_four]
    exact binds_whole rfl n

-- The last microsecond before the epoch, and a day of a year before the first, sent as text.
theorem sent_values_return_early : ∃ t d,
    encode .timestamptz (.timestamp t) = .ok (some (List.replicate 8 255)) ∧
      decodeCell ⟨"at",.timestamptz⟩ 0 (some (List.replicate 8 255)) = .ok (.timestamp t) ∧
    encode .varchar (.date d) = .ok (some (utf8 "-0044-03-15")) ∧
      decodeCell ⟨"day",.varchar⟩ 1 (some (utf8 "-0044-03-15")) = .ok (.text "-0044-03-15") := by
  have before : microsFromEpoch ⟨⟨1999,12,31,by decide⟩,
      ⟨86399,999_999_000,by decide,by decide⟩⟩ = -1 := by decide
  have sent : encode .timestamptz (.timestamp ⟨⟨1999,12,31,by decide⟩,
      ⟨86399,999_999_000,by decide,by decide⟩⟩) = .ok (some (List.replicate 8 255)) := by
    rw [encode_timestamp (.inr rfl),before]
    rfl
  have shown : (Value.date ⟨-44,3,15,by decide⟩).display = "-0044-03-15" := rfl
  have column : ServerType.varchar.isText := rfl
  have kind : IsWritten (.date ⟨-44,3,15,by decide⟩) := trivial
  have written : encode .varchar (.date ⟨-44,3,15,by decide⟩) =
      .ok (some (utf8 "-0044-03-15")) := by
    rw [encode_text column (.inl kind),shown]
  refine ⟨_,⟨-44,3,15,by decide⟩,sent,?_,written,?_⟩
  · exact (sent_values_return ⟨"at",.timestamptz⟩ 0).1 _ _ _ sent
      (.timestamp _ (.inr rfl) (by decide))
  · have returns := Returns.written column kind
    rw [shown] at returns
    exact (sent_values_return ⟨"day",.varchar⟩ 1).1 _ _ _ written returns

end DataAccess.Wire
