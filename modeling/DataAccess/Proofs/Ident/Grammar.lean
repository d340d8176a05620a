import DataAccess.Proofs.Ident.Spelling
import DataAccess.Proofs.Text.Encoding
import DataAccess.Statement

-- The grammar of identifiers: words of ASCII letters, digits and underscores, none of which begins
-- with a digit or is longer than sixty-three bytes, and a dot between each two. What is read is
-- just what has this form, and what was read is written as it was.
namespace DataAccess

def IsLetter (c : Char) : Prop := 'A' ≤ c ∧ c ≤ 'Z' ∨ 'a' ≤ c ∧ c ≤ 'z'

def IsDigit (c : Char) : Prop := '0' ≤ c ∧ c ≤ '9'

structure Spelled (part : List Char) : Prop where
  characters : ∃ first rest, part = first :: rest ∧ (IsLetter first ∨ first = '_') ∧
    ∀ c ∈ rest, IsLetter c ∨ IsDigit c ∨ c = '_'
  short : (Text.utf8 (String.ofList part)).length ≤ 63

inductive Dotted : List Char → Prop where
  | part (spelled : Spelled part) : Dotted part
  | dot (spelled : Spelled part) (further : Dotted rest) : Dotted (part ++ '.' :: rest)

theorem isLetter_iff {c : Char} : IsLetter c ↔ c.isAlpha := by
  rw [Text.isAlpha_iff]
  exact Iff.rfl

theorem isDigit_iff {c : Char} : IsDigit c ↔ c.isDigit := by
  rw [Text.isDigit_iff]
  exact Iff.rfl

theorem startsName_iff {c : Char} : startsName c = true ↔ IsLetter c ∨ c = '_' := by
  rw [startsName,Bool.or_eq_true,beq_iff_eq,isLetter_iff]
  exact Or.comm

theorem continuesName_iff {c : Char} : continuesName c = true ↔ IsLetter c ∨ IsDigit c ∨ c = '_' := by
  rw [continuesName,Bool.or_eq_true,beq_iff_eq,Text.isAlphanum_iff,isLetter_iff,isDigit_iff,or_comm,or_assoc]

theorem IsName.short {name : String} (named : IsName name) : name.utf8ByteSize ≤ 63 := by
  unfold IsName nameFault? at named
  split at named
  · cases named
  · split at named
    · cases named
    · rename_i within
      exact Nat.le_of_not_lt within

theorem isName_of_spelled {name : String} (spelled : Spelled name.toList) : IsName name := by
  obtain ⟨⟨first,rest,chars,starts,continues⟩,short⟩ := spelled
  rw [String.ofList_toList,Text.length_utf8] at short
  have within : ¬maxNameBytes < name.utf8ByteSize := Nat.not_lt.mpr short
  have begins : startsName first = true := startsName_iff.mpr starts
  have sound : (rest.find? fun c => !continuesName c) = none := by
    apply List.find?_eq_none.mpr
    intro c member
    simp [continuesName_iff.mpr (continues c member)]
  simp [IsName,nameFault?,chars,within,begins,sound]

theorem isName_iff {name : String} : IsName name ↔ Spelled name.toList := by
  constructor
  · intro named
    obtain ⟨first,rest,chars,starts,continues⟩ := named.spelled
    refine ⟨⟨first,rest,chars,startsName_iff.mp starts,?_⟩,?_⟩
    · intro c member
      exact continuesName_iff.mp (continues c member)
    · rw [String.ofList_toList,Text.length_utf8]
      exact named.short
  · exact isName_of_spelled

namespace Ident

theorem dotted_intercalate {parts : List String} (some : parts ≠ []) (named : ∀ part ∈ parts, IsName part) :
    Dotted (".".intercalate parts).toList := by
  induction parts with
  | nil => exact absurd rfl some
  | cons part parts ih =>
    have own := isName_iff.mp (named part (by simp))
    cases parts with
    | nil => simpa using Dotted.part own
    | cons next parts =>
      have further := ih (by simp) fun p member => named p (by simp [member])
      rw [String.intercalate_cons_cons]
      simpa using Dotted.dot own further

theorem sql_dotted (i : Ident) : Dotted i.sql.toList := dotted_intercalate i.nonempty i.named

-- The parts of a text that has the form, put together.
theorem exists_sql {s : List Char} (dotted : Dotted s) : ∃ i : Ident, i.sql.toList = s := by
  induction dotted with
  | @part part spelled =>
    have named : IsName (String.ofList part) := isName_iff.mpr (by rwa [String.toList_ofList])
    exact ⟨⟨[String.ofList part],by simp,by simpa using named⟩,by simp [sql]⟩
  | @dot part rest spelled further ih =>
    have named : IsName (String.ofList part) := isName_iff.mpr (by rwa [String.toList_ofList])
    obtain ⟨⟨parts,nonempty,all⟩,written⟩ := ih
    refine ⟨⟨String.ofList part :: parts,by simp,?_⟩,?_⟩
    · intro p member
      rcases List.mem_cons.mp member with rfl | later
      · exact named
      · exact all p later
    · cases parts with
      | nil => exact absurd rfl nonempty
      | cons next parts =>
        have joined : (".".intercalate (next :: parts)).toList = rest := written
        simp [sql,String.intercalate_cons_cons,joined]

theorem parse_dotted {s : String} : (∃ i, parse s = .ok i) ↔ Dotted s.toList := by
  constructor
  · rintro ⟨i,read⟩
    rw [← sql_parse read]
    exact i.sql_dotted
  · intro dotted
    obtain ⟨i,written⟩ := exists_sql dotted
    exact ⟨i,parse_ok.mpr (String.toList_injective written)⟩

theorem simple_ok {s : String} {i : Ident} : simple s = .ok i ↔ IsName s ∧ i.parts = [s] := by
  unfold simple
  split
  · rename_i fault found
    constructor
    · intro read
      cases read
    · rintro ⟨named,_⟩
      rw [named] at found
      cases found
  · rename_i found
    constructor
    · intro read
      cases read
      exact ⟨found,rfl⟩
    · rintro ⟨_,own⟩
      exact congrArg Except.ok ((mk.injEq ..).mpr own.symm)

theorem simple_spelled {s : String} : (∃ i, simple s = .ok i) ↔ Spelled s.toList := by
  rw [← isName_iff]
  constructor
  · rintro ⟨i,read⟩
    exact (simple_ok.mp read).1
  · intro named
    exact ⟨⟨[s],by simp,by simpa using named⟩,simple_ok.mpr ⟨named,rfl⟩⟩

theorem sql_simple {s : String} {i : Ident} (read : simple s = .ok i) : i.sql = s := by
  rw [sql,(simple_ok.mp read).2]
  simp

-- What is read is what has the form of an identifier, and it is written as it was, whichever way it is
-- written. So an identifier is read back from its text, no two have the same, and what an identifier adds
-- to a statement has no other characters than those of the form.
theorem read_exactly_dotted :
    (∀ s, (∃ i, parse s = .ok i) ↔ Dotted s.toList) ∧
    (∀ s, (∃ i, simple s = .ok i) ↔ Spelled s.toList) ∧
    (∀ s i, parse s = .ok i ∨ simple s = .ok i →
      i.sql = s ∧ toString i = s ∧ (∀ out, i.writeTo out = out ++ s) ∧ parse i.sql = .ok i) ∧
    (∀ i j : Ident, i.sql = j.sql → i = j) ∧
    (∀ (i : Ident) (s : Statement), ∃ written, (s.pushIdent i).sql = s.sql ++ written ∧
      ∀ c ∈ written.toList, IsLetter c ∨ IsDigit c ∨ c = '_' ∨ c = '.') ∧
    ∀ i : Ident, ∀ c ∈ i.name.toList, IsLetter c ∨ IsDigit c ∨ c = '_' := by
  refine ⟨fun s => parse_dotted,fun s => simple_spelled,?_,fun i j => sql_injective,?_,?_⟩
  · intro s i read
    have spelled : i.sql = s := read.elim sql_parse sql_simple
    refine ⟨spelled,spelled,?_,parse_sql i⟩
    intro out
    rw [writeTo_sql,spelled]
  · intro i s
    refine ⟨i.sql,i.writeTo_sql s.sql,?_⟩
    intro c member
    rcases i.sql_characters c member with dot | continues
    · exact .inr (.inr (.inr dot))
    · rw [continuesName_iff] at continues
      simpa only [or_assoc] using Or.inl (b := c = '.') continues
  · intro i c member
    exact continuesName_iff.mp (i.name_named.characters c member)

theorem read_exactly_dotted_qualified : ∃ i, parse "public.users_2" = .ok i ∧
    toString i = "public.users_2" ∧
    (∀ s : Statement, ∃ written, (s.pushIdent i).sql = s.sql ++ written ∧
      ∀ c ∈ written.toList, IsLetter c ∨ IsDigit c ∨ c = '_' ∨ c = '.') ∧
    i.writeTo "DROP TABLE IF EXISTS " = "DROP TABLE IF EXISTS public.users_2" ∧
    ¬Dotted "public..users".toList := by
  obtain ⟨reads,_,same,_,adds,_⟩ := read_exactly_dotted
  obtain ⟨i,read⟩ : ∃ i, parse "public.users_2" = .ok i := ⟨_,rfl⟩
  obtain ⟨_,shown,written,_⟩ := same _ i (.inl read)
  refine ⟨i,read,shown,adds i,written _,?_⟩
  intro dotted
  obtain ⟨j,failed⟩ := (reads _).mpr dotted
  cases failed

end Ident

end DataAccess
