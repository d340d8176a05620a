import DataAccess.Proofs.Ident.Grammar
import DataAccess.Proofs.Load.Headers
import DataAccess.Proofs.Text.Capitals
import DataAccess.Proofs.Text.Ends

-- The normal form of headers. A column's name has no capital and nothing that is trimmed or
-- replaced, so that it is its own normal form, and a header of these names makes the same columns
-- again.
namespace DataAccess.Load
open Text (folded lowercase)

-- A name without a capital.
structure Small (name : String) : Prop where
  named : IsName name
  plain : ∀ c ∈ name.toList, c.isUpper = false

namespace Small

theorem trimmed (small : Small name) : Text.Trimmed name.toList := by
  obtain ⟨first,rest,chars,_⟩ := small.named.spelled
  have solid : Text.Solid name.toList :=
    ⟨by simp [chars],fun c member => continuesName_solid (small.named.characters c member)⟩
  exact solid.trimmed

theorem unspaced (small : Small name) :
    (name.toList.map fun c => if c = ' ' then '_' else c) = name.toList := by
  refine (List.map_congr_left ?_).trans (List.map_id _)
  intro c member
  apply if_neg
  rintro rfl
  exact absurd (small.named.characters _ member) (by decide)

theorem lowercase (small : Small name) : Text.lowercase name.toList = name.toList := by
  apply Text.lowercase_small
  intro c member
  exact ⟨continuesName_ascii (small.named.characters c member),small.plain c member⟩

theorem folded (small : Small name) : Text.folded name = name := Text.folded_plain.mpr small.plain

-- Each step of the normal form leaves such a name as it is.
theorem headerName (small : Small name) : Load.headerName name = name := by
  rw [Load.headerName,small.trimmed.trim,small.unspaced,small.lowercase,String.ofList_toList]

theorem normalizes (small : Small name) : normalizeHeader name = .ok name := by
  apply normalizeHeader_ok.mpr
  rw [small.headerName]
  exact ⟨small.named,rfl⟩

end Small

theorem small_headerName {raw : String} (named : IsName (headerName raw)) : Small (headerName raw) := by
  refine ⟨named,?_⟩
  rw [headerName,String.toList_ofList]
  exact Text.lowerFrom_plain [] _

theorem normalizeHeader_error {raw : String} :
    (∃ e, normalizeHeader raw = .error e) ↔ ¬IsName (headerName raw) := by
  unfold normalizeHeader IsName
  cases nameFault? (headerName raw) <;> simp

-- Two headers with one normal form.
def Repeated (headers : List String) : Prop :=
  ∃ (first second : Nat) (raw other name : String), first < second ∧ headers[first]? = some raw ∧
    headers[second]? = some other ∧ normalizeHeader raw = .ok name ∧ normalizeHeader other = .ok name

theorem repeated_iff {headers : List String} (named : ∀ raw ∈ headers, IsName (headerName raw)) :
    Repeated headers ↔ ¬(headers.map headerName).Nodup := by
  rw [List.nodup_iff_getElem?_ne_getElem?]
  constructor
  · rintro ⟨first,second,raw,other,name,before,early,late,own,same⟩ distinct
    have within : second < headers.length := (List.getElem?_eq_some_iff.mp late).1
    apply distinct first second before (by simpa using within)
    rw [List.getElem?_map,List.getElem?_map,early,late,Option.map_some,Option.map_some,
      (normalizeHeader_ok.mp own).2,(normalizeHeader_ok.mp same).2]
  · intro repeats
    simp only [not_forall,not_not] at repeats
    obtain ⟨first,second,before,within,same⟩ := repeats
    rw [List.length_map] at within
    have inside : first < headers.length := Nat.lt_trans before within
    have early := List.getElem?_eq_getElem inside
    have late := List.getElem?_eq_getElem within
    rw [List.getElem?_map,List.getElem?_map,early,late,Option.map_some,Option.map_some,
      Option.some.injEq] at same
    refine ⟨first,second,headers[first],headers[second],headerName headers[first],before,early,late,?_,?_⟩
    · exact normalizeHeader_ok.mpr ⟨named _ (List.getElem_mem _),rfl⟩
    · exact normalizeHeader_ok.mpr ⟨named _ (List.getElem_mem _),same.symm⟩

namespace TableSchema

-- What a header makes, and what makes it again.
structure Normal (headers : List String) (schema : TableSchema) : Prop where
  columns : headers.map normalizeHeader = schema.columnNames.map .ok
  named : ∀ name ∈ schema.columnNames, Spelled name.toList
  small : ∀ name ∈ schema.columnNames, ∀ c ∈ name.toList, ¬('A' ≤ c ∧ c ≤ 'Z')
  distinct : schema.columnNames.Pairwise fun one other =>
    folded one ≠ folded other ∧ lowercase one.toList ≠ lowercase other.toList
  fixed : ∀ name ∈ schema.columnNames, normalizeHeader name = .ok name
  again : ofHeaders schema.columnNames = .ok schema

theorem ofHeaders_small {headers : List String} {schema : TableSchema}
    (read : ofHeaders headers = .ok schema) : ∀ name ∈ schema.columnNames, Small name := by
  obtain ⟨_,named,_,_⟩ := ofHeaders_ok.mp read
  intro name member
  rw [ofHeaders_names read] at member
  obtain ⟨raw,given,rfl⟩ := List.mem_map.mp member
  exact small_headerName (named raw given)

theorem ofHeaders_again {headers : List String} {schema : TableSchema}
    (read : ofHeaders headers = .ok schema) : ofHeaders schema.columnNames = .ok schema := by
  obtain ⟨some,named,distinct,made⟩ := ofHeaders_ok.mp read
  have small := ofHeaders_small read
  have names : schema.columnNames = headers.map headerName := ofHeaders_names read
  have kept : schema.columnNames.map headerName = schema.columnNames := by
    refine (List.map_congr_left ?_).trans (List.map_id _)
    intro name member
    exact (small name member).headerName
  apply ofHeaders_ok.mpr
  refine ⟨?_,?_,?_,?_⟩
  · rw [names]
    simpa using some
  · intro name member
    rw [(small name member).headerName]
    exact (small name member).named
  · rw [kept,names]
    exact distinct
  · have paired (raws : List String) : (raws.map fun raw => (headerName raw,ColumnType.unknown)) =
        (raws.map headerName).map fun name => (name,ColumnType.unknown) := by
      rw [List.map_map]
      rfl
    rw [paired,kept,names,← paired]
    exact made

theorem ofHeaders_normal {headers : List String} {schema : TableSchema}
    (read : ofHeaders headers = .ok schema) : Normal headers schema := by
  obtain ⟨_,named,distinct,_⟩ := ofHeaders_ok.mp read
  have small := ofHeaders_small read
  have names : schema.columnNames = headers.map headerName := ofHeaders_names read
  refine ⟨?_,?_,?_,?_,?_,ofHeaders_again read⟩
  · rw [names,List.map_map]
    apply List.map_congr_left
    intro raw given
    exact normalizeHeader_ok.mpr ⟨named raw given,rfl⟩
  · intro name member
    exact isName_iff.mp (small name member).named
  · intro name member c inside capital
    have upper : c.isUpper := Text.isUpper_iff.mpr capital
    rw [(small name member).plain c inside] at upper
    cases upper
  · rw [← names] at distinct
    apply List.Pairwise.imp_of_mem _ distinct
    intro one other first second apart
    rw [(small one first).folded,(small other second).folded,(small one first).lowercase,
      (small other second).lowercase]
    exact ⟨apart,fun same => apart (String.toList_injective same)⟩
  · intro name member
    exact (small name member).normalizes

theorem ofHeaders_refused {headers : List String} : (∃ e, ofHeaders headers = .error e) ↔
    ¬(headers ≠ [] ∧ (∀ raw ∈ headers, IsName (headerName raw)) ∧ (headers.map headerName).Nodup) := by
  constructor
  · rintro ⟨e,failed⟩ ⟨some,named,distinct⟩
    rw [ofHeaders_ok.mpr ⟨some,named,distinct,rfl⟩] at failed
    cases failed
  · intro unfit
    cases read : ofHeaders headers with
    | error e => exact ⟨e,rfl⟩
    | ok schema =>
      obtain ⟨some,named,distinct,_⟩ := ofHeaders_ok.mp read
      exact absurd ⟨some,named,distinct⟩ unfit

theorem ofHeaders_error {headers : List String} : (∃ e, ofHeaders headers = .error e) ↔
    headers = [] ∨ (∃ raw ∈ headers, ∃ e, normalizeHeader raw = .error e) ∨ Repeated headers := by
  simp only [normalizeHeader_error]
  rw [ofHeaders_refused]
  by_cases named : ∀ raw ∈ headers, IsName (headerName raw)
  · have sound : ¬∃ raw ∈ headers, ¬IsName (headerName raw) := by
      rintro ⟨raw,given,unnamed⟩
      exact unnamed (named raw given)
    rw [repeated_iff named,not_and_or,not_not,not_and_or]
    simp only [eq_true named,sound,not_true]
  · obtain ⟨raw,given,unnamed⟩ : ∃ raw ∈ headers, ¬IsName (headerName raw) := by simpa using named
    constructor
    · intro _
      exact .inr (.inl ⟨raw,given,unnamed⟩)
    · rintro _ ⟨_,all,_⟩
      exact named all

-- A header is read but for three reasons, and what it makes is in normal form.
theorem headers_canonical :
    (∀ headers schema, ofHeaders headers = .ok schema → Normal headers schema) ∧
    (∀ headers, (∃ e, ofHeaders headers = .error e) ↔
      headers = [] ∨ (∃ raw ∈ headers, ∃ e, normalizeHeader raw = .error e) ∨ Repeated headers) ∧
    (∀ raw, (∃ e, normalizeHeader raw = .error e) ↔ ¬Spelled (headerName raw).toList) ∧
    ∀ raw name, normalizeHeader raw = .ok name → name = headerName raw := by
  refine ⟨fun headers schema => ofHeaders_normal,fun headers => ofHeaders_error,?_,?_⟩
  · intro raw
    rw [normalizeHeader_error,isName_iff]
  · intro raw name normalized
    exact (normalizeHeader_ok.mp normalized).2.symm

-- The Kelvin sign has an ASCII letter for its small letter.
theorem headers_canonical_kelvin :
    (∃ schema, ofHeaders [" First Name","\u212A","AGE"] = .ok schema ∧
      schema.columnNames = ["first_name","k","age"] ∧ ofHeaders ["first_name","k","age"] = .ok schema) ∧
    ∃ e, ofHeaders ["id","ID"] = .error e := by
  obtain ⟨normal,fails,_,_⟩ := headers_canonical
  constructor
  · obtain ⟨schema,read,names⟩ : ∃ schema, ofHeaders [" First Name","\u212A","AGE"] = .ok schema ∧
        schema.columnNames = ["first_name","k","age"] := ⟨_,rfl,by decide +kernel⟩
    have same := (normal _ _ read).again
    rw [names] at same
    exact ⟨schema,read,names,same⟩
  · apply (fails _).mpr
    exact .inr (.inr ⟨0,1,"id","ID","id",by decide,rfl,rfl,rfl,rfl⟩)

end TableSchema

end DataAccess.Load
