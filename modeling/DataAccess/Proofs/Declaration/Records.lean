import DataAccess.Declaration.Derived
import DataAccess.Proofs.Record.RoundTrip

-- Declared record types. Every declared field is one member, at the position where it is declared,
-- with the column, the type and the option that the declaration gives it. So a record goes to a row
-- and back whole, and no field has the value of another one.
namespace DataAccess.Declaration

def IsOption (source : String) : Prop :=
  ∃ tokens argument, tokens? source = some tokens ∧
    pathSegment? tokens = some ⟨"Option",[argument]⟩

-- The word that says what a field of the type is stored as: the one that the type ends with, or the
-- argument does if the type is an option.
inductive TypeWord (source : String) : String → Prop
  | option {tokens argument : List Token} {inner : Segment} (lexed : tokens? source = some tokens)
      (path : pathSegment? tokens = some ⟨"Option",[argument]⟩)
      (within : pathSegment? argument = some inner) : TypeWord source inner.name
  | plain {tokens : List Token} {last : Segment} (lexed : tokens? source = some tokens)
      (path : pathSegment? tokens = some last) (none : ¬ IsOption source) :
      TypeWord source last.name

structure Declares (declared : FieldDeclaration) (m : Member) : Prop where
  name : m.name = nameOf declared.name
  column : ∃ settings, settingsOf ["column"] declared.attributes = .ok settings ∧
    m.column = (settings.get? "column").getD m.name
  nullable : m.nullable = true ↔ IsOption declared.type
  stored : ∃ word, TypeWord declared.type word ∧ storageOf? word = some m.storage

theorem fieldStorage_typed {source : String} {storage : Storage} {nullable : Bool}
    (read : fieldStorage? source = some (storage,nullable)) :
    (nullable = true ↔ IsOption source) ∧
      ∃ word, TypeWord source word ∧ storageOf? word = some storage := by
  unfold fieldStorage? at read
  obtain ⟨tokens,lexed,read⟩ := Option.bind_eq_some_iff.mp read
  obtain ⟨segment,path,read⟩ := Option.bind_eq_some_iff.mp read
  split at read
  · rename_i argument
    obtain ⟨inner,within,read⟩ := Option.bind_eq_some_iff.mp read
    obtain ⟨_,stored,same⟩ := Option.bind_eq_some_iff.mp read
    cases same
    have option : IsOption source := ⟨tokens,argument,lexed,path⟩
    exact ⟨⟨fun _ => option,fun _ => rfl⟩,inner.name,.option lexed path within,stored⟩
  · rename_i other
    obtain ⟨_,stored,same⟩ := Option.bind_eq_some_iff.mp read
    cases same
    have plain : ¬ IsOption source := by
      intro ⟨tokens',argument,lexed',path'⟩
      rw [lexed] at lexed'
      cases lexed'
      rw [path] at path'
      cases path'
      exact other argument rfl
    exact ⟨⟨fun different => absurd different Bool.false_ne_true,fun option => absurd option plain⟩,
      segment.name,.plain lexed path plain,stored⟩

theorem member_declares {declared : FieldDeclaration} {m : Member}
    (read : declared.member = .ok m) : Declares declared m := by
  unfold FieldDeclaration.member at read
  split at read
  · cases read
  · rename_i settings attributes
    split at read
    · cases read
    · rename_i storage nullable typed
      cases read
      obtain ⟨option,stored⟩ := fieldStorage_typed typed
      exact ⟨rfl,⟨settings,attributes,rfl⟩,option,stored⟩

theorem members_cons {declared : FieldDeclaration} {fields : List FieldDeclaration}
    {ms : List Member} (read : members (declared :: fields) = .ok ms) :
    ∃ m rest, declared.member = .ok m ∧ members fields = .ok rest ∧ ms = m :: rest := by
  rw [members] at read
  split at read
  · cases read
  · rename_i m first
    split at read
    · cases read
    · rename_i rest others
      cases read
      exact ⟨m,rest,first,others,rfl⟩

theorem length_members {fields : List FieldDeclaration} {ms : List Member}
    (read : members fields = .ok ms) : ms.length = fields.length := by
  induction fields generalizing ms with
  | nil =>
    cases read
    rfl
  | cons declared fields ih =>
    obtain ⟨m,rest,_,others,rfl⟩ := members_cons read
    exact congrArg (· + 1) (ih others)

theorem members_at {fields : List FieldDeclaration} {ms : List Member}
    (read : members fields = .ok ms) {i : Nat} {declared : FieldDeclaration}
    (given : fields[i]? = some declared) : ∃ m, declared.member = .ok m ∧ ms[i]? = some m := by
  induction fields generalizing ms i with
  | nil => simp at given
  | cons head fields ih =>
    obtain ⟨m,rest,first,others,rfl⟩ := members_cons read
    cases i with
    | zero =>
      cases given
      exact ⟨m,first,rfl⟩
    | succ i => exact ih others given

theorem derive_members {d : TypeDeclaration} {derived : Derived}
    (accepted : d.derive = .ok derived) : members d.fields = .ok derived.members := by
  unfold TypeDeclaration.derive at accepted
  split at accepted
  · cases accepted
  · cases accepted
  · cases accepted
  · cases accepted
  · split at accepted
    · cases accepted
    · split at accepted
      · cases accepted
      · split at accepted
        · cases accepted
        · rename_i read
          cases accepted
          exact read

-- A declared field and a member at one position: the descriptor there is the member's, the value
-- there is the one that a record holds for it, and what is there in a row is what it is given.
structure Aligned (derived : Derived) (i : Nat) (declared : FieldDeclaration) {m : Member}
    (place : Place derived.members m) : Prop where
  member : Declares declared m
  descriptor :
    derived.recordType.fields[i]? = some ⟨i,m.column,m.storage.fieldType,m.nullable⟩
  value : ∀ r, (derived.recordType.toValues r)[i]? = some (m.toValue (place.held r))
  argument : ∀ row r, derived.recordType.ofRow row = .ok r →
    ∃ v, row.values[i]? = some v ∧ m.ofValue v = .ok (place.held r)

theorem aligned_at {d : TypeDeclaration} {derived : Derived} (accepted : d.derive = .ok derived)
    {i : Nat} {declared : FieldDeclaration} (given : d.fields[i]? = some declared) :
    ∃ m, ∃ place : Place derived.members m, place.index = i ∧ Aligned derived i declared place := by
  obtain ⟨m,read,there⟩ := members_at (derive_members accepted) given
  obtain ⟨place,rfl⟩ := Place.at_index there
  have descriptor := place.field 0
  rw [Nat.zero_add] at descriptor
  refine ⟨m,place,rfl,member_declares read,descriptor,place.value,?_⟩
  intro row r made
  obtain ⟨v,held,taken⟩ := Instance.ofRow_held made place
  rw [Nat.zero_add] at held
  exact ⟨v,held,taken⟩

theorem record_round_trip {d : TypeDeclaration} {derived : Derived}
    (accepted : d.derive = .ok derived) :
    derived.recordType.fields.length = d.fields.length ∧
      (∀ r : Instance derived.members,
        (derived.recordType.toValues r).length = derived.recordType.fields.length ∧
          (Instance.Definite derived.members r →
            derived.recordType.mapRow (derived.recordType.toValues r) = .ok r)) ∧
      ∀ i declared, d.fields[i]? = some declared →
        ∃ m, ∃ place : Place derived.members m,
          place.index = i ∧ Aligned derived i declared place := by
  have sized : derived.recordType.fields.length = derived.members.length :=
    length_fieldsFrom derived.members 0
  refine ⟨sized.trans (length_members (derive_members accepted)),?_,?_⟩
  · intro r
    refine ⟨(Instance.length_toValues derived.members r).trans sized.symm,?_⟩
    intro definite
    exact RecordType.mapRow_toValues derived.name derived.model derived.table definite
  · intro i declared given
    exact aligned_at accepted given

namespace SensorReading

def declared : TypeDeclaration :=
  ⟨.struct,"SensorReading",
    [⟨"id","i64",[]⟩,⟨"label","String",[⟨"orm",[("column",some "\"name\"")]⟩]⟩,⟨"level","f32",[]⟩,
      ⟨"taken","Option<chrono::NaiveDate>",[]⟩],[]⟩

def derived : Derived :=
  ⟨"SensorReading","SensorReading","sensor_reading",
    [⟨"id","id",.int64,false⟩,⟨"label","name",.text,false⟩,⟨"level","level",.single,false⟩,
      ⟨"taken","taken",.date,true⟩]⟩

theorem declared_derived : declared.derive = .ok derived := by rfl

def north : Instance derived.members :=
  (7,"north",Number.Single.ofInt 3,some ⟨1970,1,1,by decide⟩,())

theorem north_definite : Instance.Definite derived.members north := by
  have number : (Number.Single.ofInt 3).isNaN = false := by decide
  exact ⟨trivial,trivial,number,fun _ _ => trivial,trivial⟩

end SensorReading

theorem record_round_trip_sensor :
    SensorReading.declared.derive = .ok SensorReading.derived ∧
      SensorReading.derived.recordType.mapRow
          (SensorReading.derived.recordType.toValues SensorReading.north) =
        .ok SensorReading.north ∧
      ∃ m, ∃ place : Place SensorReading.derived.members m, place.index = 3 ∧
        Aligned SensorReading.derived 3 ⟨"taken","Option<chrono::NaiveDate>",[]⟩ place := by
  obtain ⟨_,there_and_back,aligned⟩ := record_round_trip SensorReading.declared_derived
  exact ⟨SensorReading.declared_derived,
    (there_and_back SensorReading.north).2 SensorReading.north_definite,aligned 3 _ rfl⟩

end DataAccess.Declaration
