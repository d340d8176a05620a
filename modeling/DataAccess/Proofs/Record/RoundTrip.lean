import DataAccess.Proofs.Number.Widening
import DataAccess.Proofs.Record.Coercion

-- Records as rows and back. The values of a record are such that its fields take them as they are,
-- so a row of them is mapped to the record again; and a member has one position, which is that of
-- its value, of its field, and of what the record takes out of a row for it.
namespace DataAccess
open Number

namespace Storage

-- A NaN of thirty-two bits may come back as another one; everything else is itself again.
def Definite : (s : Storage) → s.Held → Prop
  | single,x => x.isNaN = false
  | _,_ => True

theorem toValue_isNull (s : Storage) (held : s.Held) : (s.toValue held).isNull = false := by
  cases s <;> rfl

theorem owns_toValue (s : Storage) (held : s.Held) : s.fieldType.owns (s.toValue held) = true := by
  cases s <;> rfl

theorem int64_wide {n : Int} (low : -2147483648 ≤ n) (high : n < 2147483648) :
    (Int64.ofInt n).toInt = n :=
  Int64.toInt_ofInt_of_le (by omega) (by omega)

theorem toInt16_wide (n : Int16) : (Value.int (Int64.ofInt n.toInt)).toInt16 = .ok n := by
  have low := n.le_toInt
  have high := n.toInt_lt
  unfold Value.toInt16 Value.toInt64
  dsimp only
  rw [int64_wide (by omega) (by omega),Int16.toInt_minValue,Int16.toInt_maxValue,
    if_pos ⟨low,by omega⟩,Int16.ofInt_toInt]

theorem toInt32_wide (n : Int32) : (Value.int (Int64.ofInt n.toInt)).toInt32 = .ok n := by
  have low := n.le_toInt
  have high := n.toInt_lt
  unfold Value.toInt32 Value.toInt64
  dsimp only
  rw [int64_wide low high,Int32.toInt_minValue,Int32.toInt_maxValue,
    if_pos ⟨low,by omega⟩,Int32.ofInt_toInt]

theorem ofValue_toValue (s : Storage) {held : s.Held} (definite : s.Definite held) :
    s.ofValue (s.toValue held) = .ok held := by
  cases s with
  | int16 => exact toInt16_wide held
  | int32 => exact toInt32_wide held
  | single => exact congrArg Except.ok (Single.toDouble_toSingle definite)
  | bool | int64 | double | text | date | timestamp => rfl

end Storage

namespace Member

def Definite : (m : Member) → m.Held → Prop
  | ⟨_,_,storage,true⟩,held => ∀ a : storage.Held, held = some a → storage.Definite a
  | ⟨_,_,storage,false⟩,held => storage.Definite held

theorem fits_toValue (m : Member) (ordinal : Nat) (held : m.Held) :
    (m.field ordinal).Fits (m.toValue held) := by
  obtain ⟨name,column,storage,nullable⟩ := m
  cases nullable with
  | false => exact .owned (storage.owns_toValue held)
  | true =>
    cases held with
    | none => exact .null rfl
    | some held => exact .owned (storage.owns_toValue held)

theorem ofValue_toValue (m : Member) {held : m.Held} (definite : m.Definite held) :
    m.ofValue (m.toValue held) = .ok held := by
  obtain ⟨name,column,storage,nullable⟩ := m
  cases nullable with
  | false => exact storage.ofValue_toValue definite
  | true =>
    cases held with
    | none => rfl
    | some held =>
      have back := storage.ofValue_toValue (definite held rfl)
      have some := storage.toValue_isNull held
      unfold ofValue toValue Value.ofOption Value.optional
      dsimp only
      split
      · rename_i null
        rw [null] at some
        exact absurd some (by decide)
      · rw [back]
        rfl

end Member

namespace MappedRow

theorem take_eq_ok {row : MappedRow} {index : Nat} {read : Value → Except Mismatch α} {a : α}
    {left : MappedRow} :
    row.take index read = .ok (a,left) ↔ ∃ v, row.values[index]? = some v ∧ read v = .ok a ∧
      left = { row with values := row.values.set index .null } := by
  unfold take get
  cases row.values[index]? with
  | none =>
    constructor
    · intro made
      cases made
    · intro ⟨v,here,_⟩
      cases here
  | some v =>
    dsimp only
    cases taken : read v with
    | error e =>
      constructor
      · intro made
        cases made
      · intro ⟨_,here,given,_⟩
        cases here
        cases taken.symm.trans given
    | ok b =>
      constructor
      · intro made
        cases made
        exact ⟨v,rfl,taken,rfl⟩
      · intro ⟨_,here,given,emptied⟩
        cases here
        cases taken.symm.trans given
        rw [emptied]
        rfl

end MappedRow

-- Where a member stands among the members.
inductive Place : List Member → Member → Type
  | first : Place (m :: members) m
  | next : Place members m → Place (other :: members) m

namespace Place

def index : Place members m → Nat
  | first => 0
  | next place => place.index + 1

def held : Place members m → Instance members → m.Held
  | first,(held,_) => held
  | next place,(_,rest) => place.held rest

theorem at_index {members : List Member} {m : Member} {i : Nat} (given : members[i]? = some m) :
    ∃ place : Place members m, place.index = i := by
  induction members generalizing i with
  | nil => simp at given
  | cons head members ih =>
    cases i with
    | zero =>
      cases given
      exact ⟨first,rfl⟩
    | succ i =>
      obtain ⟨place,there⟩ := ih given
      exact ⟨next place,congrArg (· + 1) there⟩

theorem field (place : Place members m) (ordinal : Nat) :
    (fieldsFrom ordinal members)[place.index]? = some (m.field (ordinal + place.index)) := by
  induction place generalizing ordinal with
  | first => rfl
  | next place ih =>
    have later := ih (ordinal + 1)
    rw [Nat.add_assoc,Nat.add_comm 1] at later
    exact later

theorem value (place : Place members m) (r : Instance members) :
    (Instance.toValues members r)[place.index]? = some (m.toValue (place.held r)) := by
  induction place with
  | first => rfl
  | next place ih => exact ih r.2

end Place

namespace Instance

def Definite : (members : List Member) → Instance members → Prop
  | [],_ => True
  | m :: members,(held,rest) => m.Definite held ∧ Definite members rest

theorem length_toValues (members : List Member) (r : Instance members) :
    (toValues members r).length = members.length := by
  induction members with
  | nil => rfl
  | cons m members ih => exact congrArg (· + 1) (ih r.2)

theorem coerceAll_toValues (members : List Member) (ordinal : Nat) (r : Instance members) :
    RecordType.coerceAll (fieldsFrom ordinal members) (toValues members r) =
      .ok (toValues members r) := by
  induction members generalizing ordinal with
  | nil => rfl
  | cons m members ih =>
    unfold toValues fieldsFrom RecordType.coerceAll
    rw [(m.fits_toValue ordinal r.1).coerce,ih]

-- A record is made of a row if its first member is, of the value at its position, and the others are
-- of what is left of the row.
theorem ofRow_eq_ok {m : Member} {members : List Member} {r : Instance (m :: members)}
    {row : MappedRow} {index : Nat} :
    ofRow row index (m :: members) = .ok r ↔
      ∃ v, row.values[index]? = some v ∧ m.ofValue v = .ok r.1 ∧
        ofRow { row with values := row.values.set index .null } (index + 1) members = .ok r.2 := by
  constructor
  · intro made
    rw [ofRow] at made
    split at made
    · cases made
    · rename_i taken
      obtain ⟨v,here,read,rfl⟩ := MappedRow.take_eq_ok.mp taken
      split at made
      · cases made
      · rename_i others
        cases made
        exact ⟨v,here,read,others⟩
  · intro ⟨v,here,read,others⟩
    rw [ofRow,MappedRow.take_eq_ok.mpr ⟨v,here,read,rfl⟩]
    dsimp only
    rw [others]

-- A row that has the values of a record from some position on is taken apart into the record:
-- the positions that are emptied on the way are behind.
theorem ofRow_toValues {members : List Member} {r : Instance members} (definite : Definite members r)
    {row : MappedRow} {index : Nat} (rest : row.values.drop index = toValues members r) :
    ofRow row index members = .ok r := by
  induction members generalizing row index with
  | nil => rfl
  | cons m members ih =>
    have here : row.values[index]? = some (m.toValue r.1) := by
      rw [← Nat.add_zero index,← List.getElem?_drop,rest]
      rfl
    have behind : (row.values.set index .null).drop (index + 1) = toValues members r.2 := by
      rw [List.drop_set_of_lt (Nat.lt_succ_self index),← List.tail_drop,rest]
      rfl
    exact ofRow_eq_ok.mpr ⟨_,here,m.ofValue_toValue definite.1,ih definite.2 behind⟩

-- What a record has for a member is what the row has at the member's position.
theorem ofRow_held {members : List Member} {r : Instance members} {row : MappedRow} {index : Nat}
    (made : ofRow row index members = .ok r) (place : Place members m) :
    ∃ v, row.values[index + place.index]? = some v ∧ m.ofValue v = .ok (place.held r) := by
  induction place generalizing row index with
  | first =>
    obtain ⟨v,here,read,_⟩ := ofRow_eq_ok.mp made
    exact ⟨v,here,read⟩
  | next place ih =>
    obtain ⟨_,_,_,others⟩ := ofRow_eq_ok.mp made
    obtain ⟨v,there,read⟩ := ih others
    rw [List.getElem?_set_ne (by omega),Nat.add_assoc,Nat.add_comm 1] at there
    exact ⟨v,there,read⟩

end Instance

theorem length_fieldsFrom (members : List Member) (ordinal : Nat) :
    (fieldsFrom ordinal members).length = members.length := by
  induction members generalizing ordinal with
  | nil => rfl
  | cons m members ih => exact congrArg (· + 1) (ih (ordinal + 1))

theorem RecordType.mapRow_even (name model table : String) {members : List Member} {row : Row}
    (even : row.length = members.length) : (ofMembers name model table members).mapRow row =
      (coerceAll (fieldsFrom 0 members) row).bind fun values =>
        Instance.ofRow ⟨fieldsFrom 0 members,values⟩ 0 members := by
  rw [← length_fieldsFrom members 0] at even
  refine (if_neg fun uneven => uneven even).trans ?_
  dsimp only [ofMembers]
  cases coerceAll (fieldsFrom 0 members) row <;> rfl

-- A record's own values are a row that it is mapped from.
theorem RecordType.mapRow_toValues (name model table : String) {members : List Member}
    {r : Instance members} (definite : Instance.Definite members r) :
    (ofMembers name model table members).mapRow (Instance.toValues members r) = .ok r := by
  rw [mapRow_even name model table (Instance.length_toValues members r),Instance.coerceAll_toValues]
  exact Instance.ofRow_toValues definite rfl

end DataAccess
