import DataAccess.Load.Feed

-- The chunks of a feed as slices of its records: the first so many records, the next so many, and
-- so on. Of a document that ends in a fault there are only the slices that are full.
namespace DataAccess.Load

def slice (size : Nat) (l : List α) (i : Nat) : List α := (l.drop (i * size)).take size

-- How many slices there are of so many records.
def sliceCount (size records : Nat) (faulty : Bool) : Nat :=
  if faulty then records / size else (records + size - 1) / size

theorem slice_drop (size : Nat) (l : List α) (i : Nat) :
    slice size (l.drop size) i = slice size l (i + 1) := by
  rw [slice,slice,List.drop_drop,Nat.add_mul,Nat.one_mul,Nat.add_comm]

theorem slices_succ (size : Nat) (l : List α) (n : Nat) :
    (List.range (n + 1)).map (slice size l) =
      l.take size :: (List.range n).map (slice size (l.drop size)) := by
  rw [List.range_succ_eq_map,List.map_cons,List.map_map]
  congr 1
  · simp [slice]
  · exact List.map_congr_left fun i _ => (slice_drop size l i).symm

theorem sliceCount_zero {size : Nat} (positive : 0 < size) (faulty : Bool) :
    sliceCount size 0 faulty = 0 := by
  unfold sliceCount
  split
  · exact Nat.zero_div size
  · exact Nat.div_eq_of_lt (by omega)

theorem sliceCount_full {size records : Nat} (positive : 0 < size) (full : size ≤ records)
    (faulty : Bool) : sliceCount size records faulty = sliceCount size (records - size) faulty + 1 := by
  unfold sliceCount
  split
  · exact Nat.div_eq_sub_div positive full
  · rw [Nat.div_eq_sub_div positive (by omega)]
    congr 2
    omega

theorem sliceCount_short {size records : Nat} (some : 0 < records) (short : records < size) :
    sliceCount size records true = 0 ∧ sliceCount size records false = 1 := by
  refine ⟨Nat.div_eq_of_lt short,?_⟩
  have last : records + size - 1 - size < size := by omega
  rw [sliceCount,if_neg Bool.false_ne_true,Nat.div_eq_sub_div (by omega) (by omega),
    Nat.div_eq_of_lt last]

-- The chunks, or the full ones among them.
theorem sliced_chunks {size : Nat} (positive : 0 < size) (records : List α) (faulty : Bool) :
    (if faulty then (chunks size records).filter (·.length = size) else chunks size records) =
      (List.range (sliceCount size records.length faulty)).map (slice size records) := by
  fun_induction chunks size records with
  | case1 records empty =>
    obtain rfl : records = [] := empty.resolve_left (by omega)
    rw [List.length_nil,sliceCount_zero positive]
    simp
  | case2 records some ih =>
    rw [not_or] at some
    have counted : 0 < records.length := List.length_pos_iff.mpr some.2
    by_cases full : size ≤ records.length
    · have taken : (records.take size).length = size := by
        rw [List.length_take,Nat.min_eq_left full]
      rw [sliceCount_full positive full,slices_succ,← List.length_drop,← ih]
      cases faulty with
      | false => rfl
      | true => simp [taken]
    · have short : records.length < size := by omega
      have rest : records.drop size = [] := List.drop_eq_nil_of_le (by omega)
      have whole : records.take size = records := List.take_of_length_le (by omega)
      obtain ⟨none,one⟩ := sliceCount_short counted short
      rw [rest] at ih ⊢
      rw [whole]
      cases faulty with
      | false =>
        rw [one]
        simpa [slice,whole,sliceCount_zero positive] using ih
      | true =>
        rw [none]
        simpa [sliceCount_zero positive,Nat.ne_of_lt short] using ih

theorem recordChunks_eq {size : Nat} (positive : 0 < size) (records : List Csv.Record)
    (faulty : Bool) : recordChunks size records faulty =
      (List.range (sliceCount size records.length faulty)).map (slice size records) :=
  sliced_chunks positive records faulty

theorem chunks_eq {size : Nat} (positive : 0 < size) (records : List α) : chunks size records =
    (List.range ((records.length + size - 1) / size)).map (slice size records) :=
  sliced_chunks positive records false

theorem chunks_fit {size : Nat} {l chunk : List α} (member : chunk ∈ chunks size l) :
    chunk ≠ [] ∧ chunk.length ≤ size ∧ ∀ a ∈ chunk, a ∈ l := by
  fun_induction chunks size l with
  | case1 l none => cases member
  | case2 l some ih =>
    rw [not_or] at some
    rcases List.mem_cons.mp member with rfl | later
    · exact ⟨by simpa using some,List.length_take_le _ _,fun a => List.mem_of_mem_take⟩
    · obtain ⟨filled,full,inside⟩ := ih later
      exact ⟨filled,full,fun a own => List.mem_of_mem_drop (inside a own)⟩

theorem chunks_flatten {size : Nat} (positive : 0 < size) (l : List α) : (chunks size l).flatten = l := by
  fun_induction chunks size l with
  | case1 l none =>
    rw [none.resolve_left (by omega)]
    rfl
  | case2 l some ih => rw [List.flatten_cons,ih,List.take_append_drop]

theorem slice_map (size : Nat) (l : List α) (f : α → β) (i : Nat) :
    slice size (l.map f) i = (slice size l i).map f := by
  rw [slice,slice,List.map_take,List.map_drop]

theorem slices_flatMap (size : Nat) (l : List α) (n : Nat) :
    (List.range n).flatMap (slice size l) = l.take (n * size) := by
  induction n with
  | zero => simp
  | succ n ih => rw [List.range_succ,List.flatMap_append,ih,Nat.succ_mul,List.take_add]; simp [slice]

end DataAccess.Load
