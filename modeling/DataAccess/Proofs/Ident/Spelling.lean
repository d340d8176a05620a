import DataAccess.Proofs.Ident.Characters

-- An identifier is spelled as it was read: the parts that a text is taken apart into, joined by
-- dots again, are the text.
namespace DataAccess

namespace Ident

theorem sql_parse {s : String} {i : Ident} (read : parse s = .ok i) : i.sql = s := by
  have joined : String.intercalate "." (segments s) = s := by
    apply String.toList_injective
    rw [String.toList_intercalate,segments,List.map_map]
    exact (congrArg _ (List.map_id'' (fun _ => String.toList_ofList) _)).trans (List.intercalate_splitOn '.')
  unfold parse at read
  split at read
  · cases read
  · split at read
    · cases read
    · cases read
      exact joined

theorem parse_ok {s : String} {i : Ident} : parse s = .ok i ↔ i.sql = s := by
  constructor
  · exact sql_parse
  · intro spelled
    rw [← spelled]
    exact parse_sql i

theorem parse_error (failed : parse s = .error e) : ∃ fault, e = .validation fault := by
  unfold parse at failed
  split at failed
  · cases failed
    exact ⟨_,rfl⟩
  · split at failed
    · cases failed
      exact ⟨_,rfl⟩
    · cases failed

theorem parseAll_ok {names : List String} {columns : List Ident} :
    parseAll names = .ok columns ↔ columns.map sql = names := by
  induction names generalizing columns with
  | nil =>
    rw [parseAll,List.map_eq_nil_iff]
    exact ⟨fun read => (Except.ok.inj read).symm,congrArg Except.ok ∘ Eq.symm⟩
  | cons name names ih =>
    constructor
    · intro read
      unfold parseAll at read
      split at read
      · cases read
      · rename_i i own
        split at read
        · cases read
        · rename_i rest further
          cases read
          rw [List.map_cons,sql_parse own,ih.mp further]
    · intro spelled
      cases columns with
      | nil => cases spelled
      | cons i rest =>
        obtain ⟨rfl,others⟩ := List.cons.inj spelled
        rw [parseAll,parse_sql]
        simp only [ih.mpr others]

theorem parseAll_named {names : List String} (named : ∀ name ∈ names, ∃ i : Ident, i.sql = name) :
    ∃ columns, parseAll names = .ok columns := by
  induction names with
  | nil => exact ⟨[],rfl⟩
  | cons name names ih =>
    obtain ⟨i,own⟩ := named name (by simp)
    obtain ⟨rest,read⟩ := ih fun n member => named n (by simp [member])
    exact ⟨i :: rest,parseAll_ok.mpr (by rw [List.map_cons,own,parseAll_ok.mp read])⟩

end Ident

end DataAccess
