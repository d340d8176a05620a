import DataAccess.Ident
import DataAccess.Proofs.Text.Letters
import DataAccess.Proofs.Text.Pieces
import DataAccess.Text.Run

-- The characters of names. A name is a word of ASCII letters, digits and underscores, and an
-- identifier has only such words and dots.
namespace DataAccess

theorem startsName_continues {c : Char} (starts : startsName c = true) : continuesName c = true := by
  simp only [startsName,continuesName,Char.isAlphanum,Bool.or_eq_true] at starts ⊢
  rcases starts with underscore | letter
  · exact .inl underscore
  · exact .inr (.inl letter)

theorem continuesName_solid {c : Char} (continues : continuesName c = true) : Text.isBlank c = false := by
  simp only [continuesName,Bool.or_eq_true,beq_iff_eq] at continues
  rcases continues with rfl | word
  · decide
  · exact Text.isBlank_of_alphanum word

theorem continuesName_ascii {c : Char} (continues : continuesName c = true) : Text.isAscii c = true := by
  simp only [continuesName,Bool.or_eq_true,beq_iff_eq] at continues
  rcases continues with rfl | word
  · decide
  · rw [Text.isAlphanum_iff,Text.isAlpha_iff,Text.isDigit_iff] at word
    simp only [Text.isAscii,decide_eq_true_eq]
    omega

theorem IsName.spelled {name : String} (named : IsName name) :
    ∃ first rest, name.toList = first :: rest ∧ startsName first = true ∧
      ∀ c ∈ rest, continuesName c = true := by
  unfold IsName nameFault? at named
  cases chars : name.toList with
  | nil => simp [chars] at named
  | cons first rest =>
    simp only [chars] at named
    split at named
    · cases named
    · split at named
      · cases named
      · rename_i starts
        split at named
        · cases named
        · rename_i searched
          refine ⟨first,rest,rfl,by simpa using starts,?_⟩
          simpa using searched

theorem IsName.characters {name : String} (named : IsName name) :
    ∀ c ∈ name.toList, continuesName c = true := by
  obtain ⟨first,rest,chars,starts,all⟩ := named.spelled
  intro c member
  rw [chars] at member
  rcases List.mem_cons.mp member with rfl | later
  · exact startsName_continues starts
  · exact all c later

theorem IsName.plain {name : String} (named : IsName name) : '$' ∉ name.toList :=
  fun member => absurd (named.characters _ member) (by decide)

namespace Ident

theorem intercalate_characters {between : String} {allowed : Char → Prop} {parts : List String}
    (separator : ∀ c ∈ between.toList, allowed c) (inside : ∀ part ∈ parts, ∀ c ∈ part.toList, allowed c) :
    ∀ c ∈ (between.intercalate parts).toList, allowed c := by
  induction parts with
  | nil => simp
  | cons part parts ih =>
    have further := ih fun p member => inside p (by simp [member])
    cases parts with
    | nil => simpa using inside part (by simp)
    | cons next parts =>
      intro c member
      rw [String.intercalate_cons_cons,String.toList_append,String.toList_append] at member
      rcases List.mem_append.mp member with early | later
      · rcases List.mem_append.mp early with own | dot
        · exact inside part (by simp) c own
        · exact separator c dot
      · exact further c later

theorem sql_characters (i : Ident) : ∀ c ∈ i.sql.toList, c = '.' ∨ continuesName c = true :=
  intercalate_characters (by simp) fun part member c within =>
    .inr ((i.named part member).characters c within)

theorem sql_without (i : Ident) {c : Char} (dot : c ≠ '.') (word : continuesName c = false) :
    c ∉ i.sql.toList := fun member => by
  rcases i.sql_characters c member with same | continues
  · exact dot same
  · rw [word] at continues
    cases continues

theorem sql_plain (i : Ident) : '$' ∉ i.sql.toList := fun member => by
  rcases i.sql_characters _ member with dot | word
  · exact absurd dot (by decide)
  · exact absurd word (by decide)

theorem name_named (i : Ident) : IsName i.name := i.named _ (List.getLast_mem _)

theorem segments_join {parts : List String} (some : parts ≠ []) (named : ∀ part ∈ parts, IsName part) :
    segments (".".intercalate parts) = parts := by
  have undotted : ∀ piece ∈ parts.map String.toList, '.' ∉ piece := by
    intro piece member dot
    obtain ⟨part,given,rfl⟩ := List.mem_map.mp member
    exact absurd ((named part given).characters _ dot) (by decide)
  have split := List.splitOn_intercalate '.' undotted (by simpa using some)
  rw [segments,String.toList_intercalate]
  refine (congrArg (List.map String.ofList) split).trans ?_
  rw [List.map_map]
  exact List.map_id'' (fun _ => String.ofList_toList) parts

theorem partFault?_of_named (whole : String) {parts : List String}
    (named : ∀ part ∈ parts, IsName part) : partFault? whole parts = none := by
  induction parts with
  | nil => rfl
  | cons part parts ih =>
    have own := named part (by simp)
    have some : part ≠ "" := by
      rintro rfl
      exact absurd own (by decide)
    rw [partFault?,if_neg some,own,Option.none_or]
    exact ih fun p member => named p (by simp [member])

-- An identifier is read back from its text.
theorem parse_sql (i : Ident) : parse i.sql = .ok i := by
  have read : segments i.sql = i.parts := segments_join i.nonempty i.named
  have some : i.sql ≠ "" := by
    intro empty
    rw [empty] at read
    have named := i.named "" (by rw [← read]; decide)
    exact absurd named (by decide)
  have sound : partFault? i.sql (segments i.sql) = none := by
    rw [read]
    exact partFault?_of_named i.sql i.named
  unfold parse
  rw [if_neg some]
  split
  · rename_i fault found
    rw [sound] at found
    cases found
  · obtain ⟨parts,nonempty,named⟩ := i
    exact congrArg Except.ok ((mk.injEq ..).mpr read)

theorem parse_name {name : String} (named : IsName name) :
    parse name = .ok ⟨[name],by simp,by simpa using named⟩ :=
  parse_sql ⟨[name],by simp,by simpa using named⟩

theorem sql_injective {i j : Ident} (same : i.sql = j.sql) : i = j := by
  have read := parse_sql i
  rw [same,parse_sql] at read
  exact (Except.ok.inj read).symm

theorem sql_some (i : Ident) : i.sql ≠ "" := by
  intro empty
  have read := parse_sql i
  rw [empty] at read
  cases read

theorem parseAll_nil {names : List String} (read : parseAll names = .ok []) : names = [] := by
  cases names with
  | nil => rfl
  | cons name names =>
    unfold parseAll at read
    split at read
    · cases read
    · split at read <;> cases read

end Ident

end DataAccess
