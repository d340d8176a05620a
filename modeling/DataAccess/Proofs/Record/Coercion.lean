import DataAccess.Record.Members

-- What converting to the type of a field leaves. A value comes out as one of that type, or as NULL
-- where the field may be NULL, and such a value is left as it is. After that only a storage that is
-- narrower than the integers of its field can refuse the value.
namespace DataAccess

namespace FieldType

theorem convert?_owned {type : FieldType} {v : Value} (owned : type.owns v = true) :
    type.convert? v = some v := by
  cases type <;> cases v <;> cases owned <;> rfl

theorem convert?_owns {type : FieldType} {v w : Value} (made : type.convert? v = some w) :
    type.owns w = true := by
  cases type with
  | text =>
    cases made
    rfl
  | bool | int | float | date | timestamp =>
    obtain ⟨_,_,rfl⟩ := Option.map_eq_some_iff.mp made
    rfl

end FieldType

namespace Field

theorem coerce_converted {field : Field} {v w : Value} (some : v.isNull = false)
    (converted : field.type.convert? v = .some w) : field.coerce v = .ok w := by
  unfold coerce
  rw [some,converted]
  rfl

-- A value that a field may have as it is.
inductive Fits (field : Field) : Value → Prop
  | null (nullable : field.nullable = true) : Fits field .null
  | owned (owns : field.type.owns v = true) : Fits field v

theorem coerce_ok {field : Field} {v w : Value} (made : field.coerce v = .ok w) :
    (w = .null ∧ v = .null ∧ field.nullable = true) ∨ field.type.owns w = true := by
  unfold coerce at made
  split at made
  · rename_i null
    split at made
    · rename_i nullable
      cases v <;> cases null
      cases made
      exact .inl ⟨rfl,rfl,nullable⟩
    · cases made
  · split at made
    · rename_i converted
      cases made
      exact .inr (FieldType.convert?_owns converted)
    · cases made

theorem coerce_fits {field : Field} {v w : Value} (made : field.coerce v = .ok w) : field.Fits w := by
  rcases coerce_ok made with ⟨rfl,_,nullable⟩ | owned
  · exact .null nullable
  · exact .owned owned

theorem Fits.coerce {field : Field} {v : Value} (fits : field.Fits v) : field.coerce v = .ok v := by
  cases fits with
  | null nullable => exact if_pos nullable
  | owned owned =>
    have some : v.isNull = false := by
      cases v with
      | null => cases field with | mk _ _ type _ => cases type <;> cases owned
      | bool | int | float | text | date | timestamp => rfl
    exact coerce_converted some (FieldType.convert?_owned owned)

-- The error is one of the field's own, whatever the value is.
theorem coerce_error {field : Field} {v : Value} {e : Error} (failed : field.coerce v = .error e) :
    ∃ mismatch, e = .dataMapping field.name mismatch := by
  unfold coerce at failed
  split at failed
  · split at failed
    · cases failed
    · cases failed
      exact ⟨_,rfl⟩
  · split at failed
    · cases failed
    · cases failed
      exact ⟨_,rfl⟩

end Field

-- An integer of a field for which a narrower storage has no room.
inductive Storage.Overflows : Storage → Int → String → Prop
  | int16 (outside : n < -32768 ∨ 32767 < n) : Overflows .int16 n "i16"
  | int32 (outside : n < -2147483648 ∨ 2147483647 < n) : Overflows .int32 n "i32"

namespace Storage

theorem narrowed_error {least greatest n : Int} {a : α} {beyond fault : Mismatch} :
    (if least ≤ n ∧ n ≤ greatest then .ok a else .error beyond : Except Mismatch α) = .error fault ↔
      (n < least ∨ greatest < n) ∧ fault = beyond := by
  split
  · rename_i inside
    refine ⟨nofun,fun outside => ?_⟩
    omega
  · rename_i outside
    rw [Except.error.injEq]
    exact ⟨fun same => ⟨by omega,same.symm⟩,fun ⟨_,same⟩ => same.symm⟩

theorem toInt16_error {n : Int64} {fault : Mismatch} : (Value.int n).toInt16 = .error fault ↔
    (n.toInt < -32768 ∨ 32767 < n.toInt) ∧ fault = .outOfRange n.toInt "i16" := by
  rw [Value.toInt16,Value.toInt64,Int16.toInt_minValue,Int16.toInt_maxValue]
  exact narrowed_error

theorem toInt32_error {n : Int64} {fault : Mismatch} : (Value.int n).toInt32 = .error fault ↔
    (n.toInt < -2147483648 ∨ 2147483647 < n.toInt) ∧ fault = .outOfRange n.toInt "i32" := by
  rw [Value.toInt32,Value.toInt64,Int32.toInt_minValue,Int32.toInt_maxValue]
  exact narrowed_error

theorem ofValue_error {s : Storage} {v : Value} (owned : s.fieldType.owns v = true)
    {fault : Mismatch} : s.ofValue v = .error fault ↔
      ∃ n width, v = .int n ∧ s.Overflows n.toInt width ∧ fault = .outOfRange n.toInt width := by
  cases s with
  | int16 =>
    cases v with
    | int n =>
      refine toInt16_error.trans ⟨fun ⟨outside,same⟩ => ⟨n,_,rfl,.int16 outside,same⟩,?_⟩
      rintro ⟨_,_,⟨⟩,overflows,same⟩
      cases overflows with
      | int16 outside => exact ⟨outside,same⟩
    | null | bool | float | text | date | timestamp => cases owned
  | int32 =>
    cases v with
    | int n =>
      refine toInt32_error.trans ⟨fun ⟨outside,same⟩ => ⟨n,_,rfl,.int32 outside,same⟩,?_⟩
      rintro ⟨_,_,⟨⟩,overflows,same⟩
      cases overflows with
      | int32 outside => exact ⟨outside,same⟩
    | null | bool | float | text | date | timestamp => cases owned
  -- The other storages hold all that their fields do.
  | bool | int64 | single | double | text | date | timestamp =>
    refine ⟨fun failed => ?_,fun ⟨_,_,_,overflows,_⟩ => nomatch overflows⟩
    cases v <;> cases owned
    cases failed

end Storage

namespace Member

theorem ofValue_error {m : Member} {ordinal : Nat} {v : Value} (fits : (m.field ordinal).Fits v)
    {fault : Mismatch} : m.ofValue v = .error fault ↔ ∃ n width, v = .int n ∧
      m.storage.Overflows n.toInt width ∧ fault = .outOfRange n.toInt width := by
  obtain ⟨name,column,storage,nullable⟩ := m
  cases fits with
  | null room =>
    cases room
    exact ⟨nofun,nofun⟩
  | owned owned =>
    refine Iff.trans ?_ (Storage.ofValue_error owned)
    cases nullable with
    | false => exact Iff.rfl
    | true =>
      have kept : (ofValue ⟨name,column,storage,true⟩ v) = (storage.ofValue v).map some := by
        cases v with
        | null => cases storage <;> cases owned
        | bool | int | float | text | date | timestamp => rfl
      rw [kept]
      cases storage.ofValue v <;> simp [Except.map]

end Member

end DataAccess
