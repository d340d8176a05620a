import DataAccess.Proofs.Cache.Answers

-- The places of a store: each key has one at most, so what is counted place by place is counted key
-- by key.
namespace DataAccess.Cache

section Lookups

variable {places : List (Key × β)}

theorem lookup_of_mem (distinct : (places.map Prod.fst).Nodup) (member : (key,b) ∈ places) :
    places.lookup key = some b := by
  induction places with
  | nil => cases member
  | cons place places ih =>
    rw [List.map_cons,List.nodup_cons] at distinct
    rcases List.mem_cons.mp member with same | later
    · simp [← same]
    · have inside : key ∈ places.map Prod.fst := List.mem_map.mpr ⟨_,later,rfl⟩
      have apart : (key == place.1) = false := by
        rw [beq_eq_false_iff_ne]
        rintro rfl
        exact distinct.1 inside
      rw [List.lookup_cons,apart]
      exact ih distinct.2 later

theorem lookup_map (f : β → γ) (key : Key) :
    (places.map fun place => (place.1,f place.2)).lookup key = (places.lookup key).map f := by
  induction places with
  | nil => rfl
  | cons place places ih =>
    rw [List.map_cons,List.lookup_cons,List.lookup_cons,ih]
    cases key == place.1 <;> rfl

theorem without_absent (absent : places.lookup key = none) :
    places.filter (·.1 ≠ key) = places := by
  rw [List.filter_eq_self]
  intro place member
  have apart := List.lookup_eq_none_iff.mp absent place member
  exact decide_eq_true fun same => by simp [same] at apart

theorem filter_distinct (distinct : (places.map Prod.fst).Nodup) (keep : Key × β → Bool) :
    ((places.filter keep).map Prod.fst).Nodup :=
  distinct.sublist (List.filter_sublist.map Prod.fst)

theorem renewed_distinct (distinct : (places.map Prod.fst).Nodup) (key : Key) (b : β) :
    ((places.filter (·.1 ≠ key) ++ [(key,b)]).map Prod.fst).Nodup := by
  rw [List.map_append,List.nodup_append]
  refine ⟨filter_distinct distinct _,by simp,fun other member own single => ?_⟩
  obtain ⟨place,kept,rfl⟩ := List.mem_map.mp member
  rw [List.mem_singleton.mp single]
  exact of_decide_eq_true (List.mem_filter.mp kept).2

end Lookups

namespace Store

variable {s : Store κ α}

def Keyed (s : Store κ α) : Prop := (s.slots.map Prod.fst).Nodup

theorem Keyed.invalidate (keyed : s.Keyed) (model : Option String) : (s.invalidate model).1.Keyed := by
  cases model with
  | none => exact List.nodup_nil
  | some name => exact filter_distinct keyed _

theorem setCell_newSlot (s : Store κ α) (key : Key) (cell other : Cell κ α) :
    (s.newSlot key cell).setCell s.cells.length other = s.newSlot key other := by
  simp [setCell,newSlot]

theorem find?_newSlot (made : ∀ slot, s.slot? other = some slot → slot < s.cells.length)
    (apart : other ≠ key) (cell : Cell κ α) : (s.newSlot key cell).find? other = s.find? other := by
  unfold find?
  rw [slot?_newSlot,if_neg apart]
  cases leads : s.slot? other with
  | none => rfl
  | some slot =>
    have own := s.cell_newSlot key cell (made slot leads)
    exact congrArg Cell.entry own

-- A key that was not there is counted if something is put in for it.
theorem entryCount_newSlot (made : ∀ place ∈ s.slots, place.2 < s.cells.length)
    (unled : s.slot? key = none) (cell : Cell κ α) : (s.newSlot key cell).entryCount =
      s.entryCount + if cell.entry.isSome then 1 else 0 := by
  have others : s.slots.filter (fun place => (Store.entry? (s.newSlot key cell) place.2).isSome) =
      s.slots.filter fun place => (s.entry? place.2).isSome := by
    refine List.filter_congr fun place member => ?_
    rw [Store.entry?,Store.entry?,cell_newSlot s key cell (made place member)]
  have own : Store.entry? (s.newSlot key cell) s.cells.length = cell.entry :=
    congrArg Cell.entry (s.cell_newSlot_self key cell)
  have slots : (s.newSlot key cell).slots = s.slots ++ [(key,s.cells.length)] := by
    rw [newSlot,without_absent unled]
  rw [entryCount,slots,List.filter_append,List.length_append,others,entryCount,List.filter_cons,own]
  cases cell.entry <;> rfl

end Store

theorem Move.keyed {s store : Store κ α} (moved : Move s call r phase store next) (keyed : s.Keyed) :
    store.Keyed := by
  cases moved with
  | make | replace => exact renewed_distinct keyed _ _
  | discard =>
    unfold Store.discardEmpty
    split
    · exact filter_distinct keyed _
    · exact keyed
  | _ => exact keyed

namespace Machine

theorem Acts.keyed {m next : Machine κ α} (acts : Acts m a next) (keyed : m.store.Keyed) :
    next.store.Keyed := by
  cases acts with
  | step found moved => exact moved.keyed keyed
  | invalidate => exact keyed.invalidate _
  | _ => exact keyed

theorem reached_keyed [DecidableEq κ] (actions : List (Action κ α)) :
    ((ofStore Store.empty).run actions).store.Keyed :=
  run_preserves (fun m => m.store.Keyed) (fun _ _ => True) (fun acts _ keyed => acts.keyed keyed)
    List.nodup_nil fun _ _ _ _ => trivial

end Machine

end DataAccess.Cache
