import DataAccess.Proofs.Declaration.Records
import DataAccess.Proofs.Record.Refusals

-- The rows that a declared record type refuses. Whatever converts is of the type of its field, so
-- that only an integer for a declared type that is narrower than the field's is refused after that;
-- and a row with a value that does not convert is refused for the first of those, also where such
-- an integer stands before it.
namespace DataAccess.Declaration

theorem typeWord_unique {source word other : String} (typed : TypeWord source word)
    (again : TypeWord source other) : word = other := by
  cases typed with
  | option lexed path within =>
    cases again with
    | option lexed' path' within' =>
      cases lexed.symm.trans lexed'
      cases path.symm.trans path'
      cases within.symm.trans within'
      rfl
    | plain _ _ none => exact absurd ⟨_,_,lexed,path⟩ none
  | plain lexed path none =>
    cases again with
    | option lexed' path' _ => exact absurd ⟨_,_,lexed',path'⟩ none
    | plain lexed' path' _ =>
      cases lexed.symm.trans lexed'
      cases path.symm.trans path'
      rfl

-- An integer of a field that is none of the declared type.
inductive Beyond : String → Int → Prop
  | i16 (outside : n < -32768 ∨ 32767 < n) : Beyond "i16" n
  | i32 (outside : n < -2147483648 ∨ 2147483647 < n) : Beyond "i32" n

theorem overflows_iff {word width : String} {s : Storage} {n : Int} (stored : storageOf? word = some s) :
    s.Overflows n width ↔ Beyond word n ∧ width = word := by
  constructor
  · intro overflows
    cases overflows with
    | int16 outside =>
      unfold storageOf? at stored
      split at stored <;> cases stored
      exact ⟨.i16 outside,rfl⟩
    | int32 outside =>
      unfold storageOf? at stored
      split at stored <;> cases stored
      exact ⟨.i32 outside,rfl⟩
  · rintro ⟨beyond,rfl⟩
    cases beyond with
    | i16 outside =>
      cases stored
      exact .int16 outside
    | i32 outside =>
      cases stored
      exact .int32 outside

-- A value that comes out as an integer that the type declared at its position has no room for.
def Narrowed (d : TypeDeclaration) (fields : List Field) (row : Row) (i : Nat) (e : Error) : Prop :=
  ∃ declared word field v n, d.fields[i]? = some declared ∧ TypeWord declared.type word ∧
    fields[i]? = some field ∧ row[i]? = some v ∧ field.coerce v = .ok (.int n) ∧ Beyond word n.toInt ∧
    e = .dataMapping field.name (.outOfRange n.toInt word)

theorem narrowed_iff {d : TypeDeclaration} {derived : Derived} (accepted : d.derive = .ok derived)
    (row : Row) (i : Nat) (e : Error) :
    Narrowed d derived.recordType.fields row i e ↔ Overflown derived.members row i e := by
  have read := derive_members accepted
  have described : derived.recordType.fields[i]? = (derived.members[i]?).map (Member.field i) :=
    fieldsFrom_at derived.members i
  constructor
  · rintro ⟨declared,word,field,v,n,there,typed,at_i,given,made,beyond,rfl⟩
    obtain ⟨m,own,member⟩ := members_at read there
    obtain ⟨_,again,stored⟩ := (member_declares own).stored
    cases typeWord_unique typed again
    rw [described,member] at at_i
    cases at_i
    exact ⟨m,v,n,word,member,given,made,(overflows_iff stored).mpr ⟨beyond,rfl⟩,rfl⟩
  · rintro ⟨m,v,n,width,member,given,made,overflows,rfl⟩
    obtain ⟨inside,_⟩ := List.getElem?_eq_some_iff.mp member
    have there := List.getElem?_eq_getElem (length_members read ▸ inside : i < d.fields.length)
    obtain ⟨_,own,same⟩ := members_at read there
    cases member.symm.trans same
    obtain ⟨word,typed,stored⟩ := (member_declares own).stored
    obtain ⟨beyond,rfl⟩ := (overflows_iff stored).mp overflows
    exact ⟨_,width,m.field i,v,n,there,typed,by rw [described,member]; rfl,given,made,beyond,rfl⟩

-- What a row is refused for, and with which error.
inductive Refusal (d : TypeDeclaration) (derived : Derived) (row : Row) : Error → Prop
  | uneven (different : row.length ≠ d.fields.length) : Refusal d derived row
      (.dataMapping derived.model (.columnCount row.length d.fields.length))
  | unconverted (even : row.length = d.fields.length)
      (first : FirstFault (Unconverted derived.recordType.fields row) e) : Refusal d derived row e
  | narrowed (even : row.length = d.fields.length)
      (converts : ∀ i other, ¬ Unconverted derived.recordType.fields row i other)
      (first : FirstFault (Narrowed d derived.recordType.fields row) e) : Refusal d derived row e

theorem mapRow_error_iff {d : TypeDeclaration} {derived : Derived} (accepted : d.derive = .ok derived)
    (row : Row) (e : Error) : derived.recordType.mapRow row = .error e ↔ Refusal d derived row e := by
  have counted := length_members (derive_members accepted)
  change (RecordType.ofMembers derived.name derived.model derived.table derived.members).mapRow row =
    .error e ↔ _
  by_cases even : row.length = derived.members.length
  · have sized := even.trans counted
    cases converted : RecordType.coerceAll (fieldsFrom 0 derived.members) row with
    | error first =>
      have faulty := RecordType.coerceAll_error.mp converted
      rw [RecordType.mapRow_even _ _ _ even,converted]
      constructor
      · intro failed
        cases failed
        exact .unconverted sized faulty
      · intro refusal
        cases refusal with
        | uneven different => exact absurd sized different
        | unconverted _ again =>
          cases converted.symm.trans (RecordType.coerceAll_error.mpr again)
          rfl
        | narrowed _ converts _ =>
          obtain ⟨i,here,_⟩ := faulty
          exact absurd here (converts i first)
    | ok values =>
      rw [RecordType.mapRow_converted _ _ _ even converted,
        ← firstFault_congr (narrowed_iff accepted row)]
      constructor
      · exact .narrowed sized (not_unconverted converted)
      · intro refusal
        cases refusal with
        | uneven different => exact absurd sized different
        | unconverted _ again =>
          obtain ⟨i,here,_⟩ := again
          exact absurd here (not_unconverted converted i e)
        | narrowed _ _ first => exact first
  · have different : row.length ≠ d.fields.length := fun same => even (same.trans counted.symm)
    rw [RecordType.mapRow_uneven _ _ _ even,counted]
    constructor
    · intro failed
      cases failed
      exact .uneven different
    · intro refusal
      cases refusal with
      | uneven _ => rfl
      | unconverted sized _ | narrowed sized _ _ => exact absurd sized different

theorem Refusal.isDataMapping {d : TypeDeclaration} {derived : Derived} {row : Row} {e : Error}
    (refusal : Refusal d derived row e) : e.isDataMapping = true := by
  cases refusal with
  | uneven _ => rfl
  | unconverted _ first =>
    obtain ⟨_,⟨_,_,_,_,failed⟩,_⟩ := first
    obtain ⟨_,rfl⟩ := Field.coerce_error failed
    rfl
  | narrowed _ _ first =>
    obtain ⟨_,⟨_,_,_,_,_,_,_,_,_,_,_,rfl⟩,_⟩ := first
    rfl

-- One fault, wherever it is, is enough for a refusal.
theorem refused_iff (d : TypeDeclaration) (derived : Derived) (row : Row) :
    (∃ e, Refusal d derived row e) ↔ row.length ≠ d.fields.length ∨
      (∃ i e, Unconverted derived.recordType.fields row i e) ∨
        ∃ i e, Narrowed d derived.recordType.fields row i e := by
  constructor
  · rintro ⟨e,refusal⟩
    cases refusal with
    | uneven different => exact .inl different
    | unconverted _ first =>
      obtain ⟨i,here,_⟩ := first
      exact .inr (.inl ⟨i,e,here⟩)
    | narrowed _ _ first =>
      obtain ⟨i,here,_⟩ := first
      exact .inr (.inr ⟨i,e,here⟩)
  · intro faulty
    by_cases even : row.length = d.fields.length
    · by_cases unconverted : ∃ i e, Unconverted derived.recordType.fields row i e
      · obtain ⟨i,e,here⟩ := unconverted
        obtain ⟨first,found⟩ := firstFault_of_fault here
        exact ⟨first,.unconverted even found⟩
      · rcases faulty with different | some | ⟨i,e,here⟩
        · exact absurd even different
        · exact absurd some unconverted
        · obtain ⟨first,found⟩ := firstFault_of_fault here
          exact ⟨first,.narrowed even (fun j other there => unconverted ⟨j,other,there⟩) found⟩
    · exact ⟨_,.uneven even⟩

theorem only_narrow_fields_refuse_coerced :
    (∀ (field : Field) (v w : Value), field.coerce v = .ok w →
      ((w = .null ∧ v = .null ∧ field.nullable = true) ∨ field.type.owns w = true) ∧
        field.coerce w = .ok w) ∧
    (∀ (field : Field) (v : Value), field.type.owns v = true → field.coerce v = .ok v) ∧
    (∀ (field : Field) (v : Value) (e : Error), field.coerce v = .error e →
      ∃ mismatch, e = .dataMapping field.name mismatch) ∧
    ∀ (d : TypeDeclaration) (derived : Derived), d.derive = .ok derived → ∀ row : Row,
      ((∃ e, derived.recordType.mapRow row = .error e) ↔ row.length ≠ d.fields.length ∨
        (∃ i e, Unconverted derived.recordType.fields row i e) ∨
          ∃ i e, Narrowed d derived.recordType.fields row i e) ∧
      ∀ e, (derived.recordType.mapRow row = .error e ↔ Refusal d derived row e) ∧
        (Refusal d derived row e → e.isDataMapping = true) := by
  refine ⟨fun field v w made => ⟨Field.coerce_ok made,(Field.coerce_fits made).coerce⟩,
    fun field v owned => (Field.Fits.owned owned).coerce,fun field v e => Field.coerce_error,?_⟩
  intro d derived accepted row
  constructor
  · rw [← refused_iff]
    exact exists_congr fun e => mapRow_error_iff accepted row e
  · exact fun e => ⟨mapRow_error_iff accepted row e,Refusal.isDataMapping⟩

namespace Gauge

def declared : TypeDeclaration :=
  ⟨.struct,"Gauge",[⟨"level","i16",[]⟩,⟨"height","Option<i32>",[]⟩,⟨"taken","NaiveDate",[]⟩],[]⟩

def derived : Derived :=
  ⟨"Gauge","Gauge","gauge",
    [⟨"level","level",.int16,false⟩,⟨"height","height",.int32,true⟩,⟨"taken","taken",.date,false⟩]⟩

theorem declared_derived : declared.derive = .ok derived := by rfl

end Gauge

-- A level beyond sixteen bits is named, unless a later value does not convert.
theorem only_narrow_fields_refuse_coerced_gauge :
    (Field.coerce ⟨0,"level",.int,false⟩ (.text " 40000 ") = .ok (.int 40000) ∧
      Field.coerce ⟨0,"level",.int,false⟩ (.int 40000) = .ok (.int 40000)) ∧
    Refusal Gauge.declared Gauge.derived [.text " 40000 ",.null,.timestamp (.ofDate ⟨2024,2,29,by decide⟩)]
      (.dataMapping "level" (.outOfRange 40000 "i16")) ∧
    Refusal Gauge.declared Gauge.derived [.text " 40000 ",.null,.bool true]
      (.dataMapping "taken" (.unconvertible "bool" "true" "Date")) := by
  obtain ⟨sound,_,_,refused⟩ := only_narrow_fields_refuse_coerced
  have made : Field.coerce ⟨0,"level",.int,false⟩ (.text " 40000 ") = .ok (.int 40000) := by rfl
  refine ⟨⟨made,(sound _ _ _ made).2⟩,?_,?_⟩
  · exact ((refused _ _ Gauge.declared_derived _).2 _).1.mp (by rfl)
  · exact ((refused _ _ Gauge.declared_derived _).2 _).1.mp (by rfl)

end DataAccess.Declaration
