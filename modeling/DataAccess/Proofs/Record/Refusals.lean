import DataAccess.Proofs.Record.RoundTrip

-- The rows that are no records. All values are converted before the first is taken out, so a value
-- that does not convert is named before any that converts to an integer beyond the storage of its
-- member; and of either kind the first is named. A row is refused for nothing else but its length.
namespace DataAccess

-- The fault at the first position that has one.
def FirstFault (faulty : Nat → Error → Prop) (e : Error) : Prop :=
  ∃ i, faulty i e ∧ ∀ j < i, ∀ other, ¬ faulty j other

theorem firstFault_cons {faulty : Nat → Error → Prop} {e : Error} : FirstFault faulty e ↔
    faulty 0 e ∨ (∀ other, ¬ faulty 0 other) ∧ FirstFault (fun i => faulty (i + 1)) e := by
  constructor
  · intro ⟨i,here,first⟩
    cases i with
    | zero => exact .inl here
    | succ i =>
      exact .inr ⟨first 0 (Nat.succ_pos i),i,here,fun j before => first (j + 1) (Nat.succ_lt_succ before)⟩
  · rintro (here | ⟨none,i,here,first⟩)
    · exact ⟨0,here,fun j before => absurd before (Nat.not_lt_zero j)⟩
    · refine ⟨i + 1,here,fun j before => ?_⟩
      cases j with
      | zero => exact none
      | succ j => exact first j (Nat.lt_of_succ_lt_succ before)

theorem firstFault_congr {faulty other : Nat → Error → Prop} (same : ∀ i e, faulty i e ↔ other i e)
    (e : Error) : FirstFault faulty e ↔ FirstFault other e := by
  have equal : faulty = other := funext fun i => funext fun e => propext (same i e)
  rw [equal]

theorem firstFault_of_fault {faulty : Nat → Error → Prop} {i : Nat} {e : Error} (here : faulty i e) :
    ∃ first, FirstFault faulty first := by
  induction i using Nat.strongRecOn generalizing e with
  | ind i ih =>
    by_cases before : ∃ j, j < i ∧ ∃ other, faulty j other
    · obtain ⟨j,order,other,earlier⟩ := before
      exact ih j order earlier
    · exact ⟨e,i,here,fun j order other earlier => before ⟨j,order,other,earlier⟩⟩

-- A value that is none for the field at its position.
def Unconverted (fields : List Field) (row : Row) (i : Nat) (e : Error) : Prop :=
  ∃ field v, fields[i]? = some field ∧ row[i]? = some v ∧ field.coerce v = .error e

-- A value that comes out as an integer for which the member at its position has no room.
def Overflown (members : List Member) (row : Row) (i : Nat) (e : Error) : Prop :=
  ∃ m v n width, members[i]? = some m ∧ row[i]? = some v ∧ (m.field i).coerce v = .ok (.int n) ∧
    m.storage.Overflows n.toInt width ∧ e = .dataMapping m.column (.outOfRange n.toInt width)

namespace RecordType

theorem coerceAll_error {fields : List Field} {row : Row} {e : Error} :
    coerceAll fields row = .error e ↔ FirstFault (Unconverted fields row) e := by
  induction fields generalizing row with
  | nil => simp [coerceAll,FirstFault,Unconverted]
  | cons field fields ih =>
    cases row with
    | nil => simp [coerceAll,FirstFault,Unconverted]
    | cons v row =>
      have own (e : Error) : Unconverted (field :: fields) (v :: row) 0 e ↔ field.coerce v = .error e := by
        simp [Unconverted]
      rw [firstFault_cons,own]
      simp only [own]
      change _ ↔ _ ∨ _ ∧ FirstFault (Unconverted fields row) e
      rw [← ih,coerceAll]
      cases field.coerce v with
      | error first => simp
      | ok w => cases coerceAll fields row <;> simp

theorem coerceAll_ok {fields : List Field} {row values : Row} (made : coerceAll fields row = .ok values)
    {i : Nat} {field : Field} {v : Value} (declared : fields[i]? = some field) (given : row[i]? = some v) :
    ∃ w, values[i]? = some w ∧ field.coerce v = .ok w := by
  induction fields generalizing row values i with
  | nil => cases declared
  | cons head fields ih =>
    cases row with
    | nil => cases given
    | cons first row =>
      rw [coerceAll] at made
      split at made
      · cases made
      · rename_i w converted
        split at made
        · cases made
        · rename_i ws others
          cases made
          cases i with
          | zero =>
            cases declared
            cases given
            exact ⟨w,rfl,converted⟩
          | succ i => exact ih others declared given

end RecordType

theorem MappedRow.take_of_value {row : MappedRow} {index : Nat} {v : Value}
    (here : row.values[index]? = some v) (read : Value → Except Mismatch α) :
    row.take index read = match read v with
      | .error fault => .error (.dataMapping (row.fieldName index) fault)
      | .ok a => .ok (a,{ row with values := row.values.set index .null }) := by
  rw [take,get,here]
  change ((read v).mapError _).map _ = _
  cases read v <;> rfl

namespace Instance

-- A member from some position on whose storage has no room for the integer that is there.
def OverflownFrom (row : MappedRow) (index : Nat) (members : List Member) (i : Nat) (e : Error) : Prop :=
  ∃ m n width, members[i]? = some m ∧ row.values[index + i]? = some (.int n) ∧
    m.storage.Overflows n.toInt width ∧
    e = .dataMapping (row.fieldName (index + i)) (.outOfRange n.toInt width)

-- Taking a value out changes nothing of those that come after it.
theorem overflownFrom_behind (row : MappedRow) (index : Nat) (m : Member) (members : List Member)
    (i : Nat) (e : Error) :
    OverflownFrom { row with values := row.values.set index .null } (index + 1) members i e ↔
      OverflownFrom row index (m :: members) (i + 1) e := by
  unfold OverflownFrom MappedRow.fieldName
  rw [List.getElem?_set_ne (by omega),Nat.add_assoc,Nat.add_comm 1,List.getElem?_cons_succ]

-- The values from some position on are such that the fields of the members may have them.
def Fitting (row : MappedRow) (index : Nat) (members : List Member) : Prop :=
  ∀ i m, members[i]? = some m → ∃ v, row.values[index + i]? = some v ∧ (m.field (index + i)).Fits v

theorem ofRow_error {members : List Member} {row : MappedRow} {index : Nat}
    (fitting : Fitting row index members) {e : Error} :
    ofRow row index members = .error e ↔ FirstFault (OverflownFrom row index members) e := by
  induction members generalizing row index with
  | nil => simp [ofRow,FirstFault,OverflownFrom]
  | cons m members ih =>
    obtain ⟨v,here,fits⟩ := fitting 0 m rfl
    rw [Nat.add_zero] at here fits
    have behind : Fitting { row with values := row.values.set index .null } (index + 1) members := by
      intro i later declared
      obtain ⟨u,there,fits⟩ := fitting (i + 1) later declared
      rw [← Nat.add_assoc,Nat.add_right_comm] at there fits
      exact ⟨u,by rwa [List.getElem?_set_ne (by omega)],fits⟩
    have own (e : Error) : OverflownFrom row index (m :: members) 0 e ↔
        ∃ fault, m.ofValue v = .error fault ∧ e = .dataMapping (row.fieldName index) fault := by
      simp only [m.ofValue_error fits]
      constructor
      · rintro ⟨_,n,width,⟨⟩,given,overflows,same⟩
        cases here.symm.trans given
        exact ⟨_,⟨n,width,rfl,overflows,rfl⟩,same⟩
      · rintro ⟨_,⟨n,width,rfl,overflows,rfl⟩,same⟩
        exact ⟨m,n,width,rfl,here,overflows,same⟩
    rw [firstFault_cons,← firstFault_congr (overflownFrom_behind row index m members),← ih behind,own,
      ofRow,MappedRow.take_of_value here]
    simp only [own]
    cases m.ofValue v with
    | error fault => simp [eq_comm]
    | ok held =>
      dsimp only
      cases ofRow { row with values := row.values.set index .null } (index + 1) members <;> simp

end Instance

theorem fieldsFrom_at (members : List Member) (i : Nat) :
    (fieldsFrom 0 members)[i]? = (members[i]?).map (Member.field i) := by
  cases given : members[i]? with
  | none =>
    rw [List.getElem?_eq_none_iff] at given
    exact List.getElem?_eq_none ((length_fieldsFrom members 0).symm ▸ given)
  | some m =>
    obtain ⟨place,rfl⟩ := Place.at_index given
    simpa using place.field 0

theorem not_unconverted {fields : List Field} {row values : Row}
    (converted : RecordType.coerceAll fields row = .ok values) (i : Nat) (e : Error) :
    ¬ Unconverted fields row i e := by
  intro ⟨field,v,declared,given,failed⟩
  obtain ⟨w,_,made⟩ := RecordType.coerceAll_ok converted declared given
  cases failed.symm.trans made

namespace RecordType

variable (name model table : String) {members : List Member} {row values : Row}

theorem mapRow_uneven (uneven : row.length ≠ members.length) :
    (ofMembers name model table members).mapRow row =
      .error (.dataMapping model (.columnCount row.length members.length)) := by
  rw [← length_fieldsFrom members 0] at uneven ⊢
  exact if_pos uneven

-- A row whose values all convert is refused for the first one that a storage has no room for.
theorem mapRow_converted (even : row.length = members.length)
    (converted : coerceAll (fieldsFrom 0 members) row = .ok values) (e : Error) :
    (ofMembers name model table members).mapRow row = .error e ↔
      FirstFault (Overflown members row) e := by
  have value {i : Nat} {m : Member} (declared : members[i]? = some m) :
      ∃ v w, row[i]? = some v ∧ values[i]? = some w ∧ (m.field i).coerce v = .ok w := by
    obtain ⟨inside,_⟩ := List.getElem?_eq_some_iff.mp declared
    have given := List.getElem?_eq_getElem (even ▸ inside : i < row.length)
    have described : (fieldsFrom 0 members)[i]? = some (m.field i) := by rw [fieldsFrom_at,declared]; rfl
    obtain ⟨w,there,made⟩ := coerceAll_ok converted described given
    exact ⟨_,w,given,there,made⟩
  have fitting : Instance.Fitting ⟨fieldsFrom 0 members,values⟩ 0 members := by
    intro i m declared
    obtain ⟨v,w,_,there,made⟩ := value declared
    rw [Nat.zero_add]
    exact ⟨w,there,Field.coerce_fits made⟩
  have same (i : Nat) (e : Error) :
      Instance.OverflownFrom ⟨fieldsFrom 0 members,values⟩ 0 members i e ↔ Overflown members row i e := by
    unfold Instance.OverflownFrom MappedRow.fieldName
    rw [Nat.zero_add]
    constructor
    · rintro ⟨m,n,width,declared,there,overflows,rfl⟩
      obtain ⟨v,w,given,here,made⟩ := value declared
      cases there.symm.trans here
      refine ⟨m,v,n,width,declared,given,made,overflows,?_⟩
      rw [fieldsFrom_at,declared]
      rfl
    · rintro ⟨m,v,n,width,declared,given,made,overflows,rfl⟩
      obtain ⟨_,w,again,there,other⟩ := value declared
      cases given.symm.trans again
      cases made.symm.trans other
      refine ⟨m,n,width,declared,there,overflows,?_⟩
      rw [fieldsFrom_at,declared]
      rfl
  rw [mapRow_even name model table even,converted]
  exact (Instance.ofRow_error fitting).trans (firstFault_congr same e)

end RecordType

end DataAccess
