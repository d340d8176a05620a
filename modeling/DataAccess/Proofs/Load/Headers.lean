import DataAccess.Load.TableSchema
import DataAccess.Proofs.Ident.Characters

-- Which headers make columns. Each of them has to become a name, and no two the same one; the
-- columns then have these names, in the order of the headers.
namespace DataAccess.Load

theorem normalizeHeader_ok {raw name : String} :
    normalizeHeader raw = .ok name ↔ IsName (headerName raw) ∧ headerName raw = name := by
  unfold normalizeHeader IsName
  cases nameFault? (headerName raw) <;> simp

namespace TableSchema

theorem namesAfter_complete {seen raws : List String}
    (named : ∀ raw ∈ raws, IsName (headerName raw) ∧ headerName raw ∉ seen)
    (distinct : (raws.map headerName).Nodup) : namesAfter seen raws = .ok (raws.map headerName) := by
  induction raws generalizing seen with
  | nil => rfl
  | cons raw raws ih =>
    rw [List.map_cons,List.nodup_cons] at distinct
    obtain ⟨own,before⟩ := named raw (by simp)
    have others : ∀ other ∈ raws, IsName (headerName other) ∧ headerName other ∉ seen ++ [headerName raw] := by
      intro other member
      obtain ⟨theirs,early⟩ := named other (by simp [member])
      refine ⟨theirs,?_⟩
      intro within
      rcases List.mem_append.mp within with earlier | last
      · exact early earlier
      · have same : headerName other = headerName raw := by simpa using last
        rw [← same] at distinct
        exact distinct.1 (List.mem_map_of_mem member)
    simp [namesAfter,normalizeHeader_ok.mpr ⟨own,rfl⟩,before,ih others distinct.2]

theorem namesAfter_sound {seen raws names : List String} (read : namesAfter seen raws = .ok names) :
    (∀ raw ∈ raws, IsName (headerName raw) ∧ headerName raw ∉ seen) ∧ (raws.map headerName).Nodup ∧
      raws.map headerName = names := by
  induction raws generalizing seen names with
  | nil =>
    cases read
    simp
  | cons raw raws ih =>
    unfold namesAfter at read
    split at read
    · cases read
    · rename_i name normalized
      obtain ⟨own,rfl⟩ := normalizeHeader_ok.mp normalized
      split at read
      · cases read
      · rename_i before
        split at read
        · cases read
        · rename_i others further
          cases read
          obtain ⟨each,distinct,rfl⟩ := ih further
          have apart : headerName raw ∉ raws.map headerName := by
            intro within
            obtain ⟨other,member,same⟩ := List.mem_map.mp within
            exact (each other member).2 (by simp [same])
          refine ⟨?_,by simp [apart,distinct],rfl⟩
          intro other member
          rcases List.mem_cons.mp member with rfl | later
          · exact ⟨own,before⟩
          · exact ⟨(each other later).1,fun early => (each other later).2 (by simp [early])⟩

theorem ofHeaders_ok {headers : List String} {schema : TableSchema} : ofHeaders headers = .ok schema ↔
    headers ≠ [] ∧ (∀ raw ∈ headers, IsName (headerName raw)) ∧ (headers.map headerName).Nodup ∧
      schema = ⟨headers.map fun raw => (headerName raw,.unknown)⟩ := by
  have columns : ((headers.map headerName).map fun name => (name,ColumnType.unknown)) =
      headers.map fun raw => (headerName raw,.unknown) := by
    rw [List.map_map]
    rfl
  constructor
  · intro read
    unfold ofHeaders at read
    split at read
    · cases read
    · cases read
    · rename_i some named
      cases read
      obtain ⟨each,distinct,rfl⟩ := namesAfter_sound named
      rw [columns]
      exact ⟨fun empty => some (by rw [empty]; rfl),fun raw member => (each raw member).1,distinct,rfl⟩
  · rintro ⟨some,each,distinct,rfl⟩
    have named := @namesAfter_complete [] headers (fun raw member => ⟨each raw member,by simp⟩) distinct
    cases headers with
    | nil => exact absurd rfl some
    | cons raw headers =>
      rw [← columns]
      unfold ofHeaders
      rw [named]
      rfl

theorem ofHeaders_names {headers : List String} {schema : TableSchema}
    (read : ofHeaders headers = .ok schema) : schema.columnNames = headers.map headerName := by
  obtain ⟨_,_,_,rfl⟩ := ofHeaders_ok.mp read
  simp [columnNames]

end TableSchema

end DataAccess.Load
