import DataAccess.Load.Handover
import DataAccess.Proofs.Load.Endings

-- What the reading half of a load sends, from wherever it is, and what the inserting half makes of
-- it when all of it is there.
namespace DataAccess.Load

theorem chunks_full {size : Nat} (positive : 0 < size) {chunk : List α} (full : chunk.length = size)
    (left : List α) : chunks size (chunk ++ left) = chunk :: chunks size left := by
  have some : chunk ≠ [] := List.length_pos_iff.mp (by omega)
  rw [chunks,if_neg (by simp [some,Nat.ne_of_gt positive]),← full,List.take_left,List.drop_left]

theorem chunks_short {size : Nat} {chunk : List α} (some : chunk ≠ []) (short : chunk.length < size) :
    chunks size chunk = [chunk] := by
  have none : chunk.drop size = [] := List.drop_eq_nil_of_le (Nat.le_of_lt short)
  rw [chunks,if_neg (by simp [some]; omega),List.take_of_length_le (Nat.le_of_lt short),none,chunks]
  simp

theorem recordChunks_full {size : Nat} (positive : 0 < size) {chunk : List Csv.Record}
    (full : chunk.length = size) (left : List Csv.Record) (faulty : Bool) :
    recordChunks size (chunk ++ left) faulty = chunk :: recordChunks size left faulty := by
  unfold recordChunks
  rw [chunks_full positive full]
  cases faulty <;> simp [full]

-- The message behind the full chunks, if there is one.
def lastMessage (chunk : List Csv.Record) : Option CsvFault → List Message
  | none => if chunk = [] then [] else [.ok chunk]
  | some .readerStopped => []
  | some fault => [.error fault]

-- What is sent of these records when so many are in the chunk under way.
def gathered (size : Nat) (fault : Option CsvFault) (chunk : List Csv.Record) :
    List Csv.Record → List Message
  | [] => lastMessage chunk fault
  | record :: left =>
    if (chunk ++ [record]).length = size then
      .ok (chunk ++ [record]) :: gathered size fault [] left
    else gathered size fault (chunk ++ [record]) left

theorem gathered_chunks {size : Nat} (fault : Option CsvFault) {chunk left : List Csv.Record}
    (short : chunk.length < size) : gathered size fault chunk left =
      (recordChunks size (chunk ++ left) fault.isSome).map .ok ++ lastMessage [] fault := by
  have positive : 0 < size := Nat.zero_lt_of_lt short
  induction left generalizing chunk with
  | nil =>
    have none : chunks size ([] : List Csv.Record) = [] := by simp [chunks]
    rw [List.append_nil,gathered]
    unfold recordChunks
    by_cases empty : chunk = []
    · subst empty
      rw [none]
      cases fault <;> simp
    · rw [chunks_short empty short]
      cases fault with
      | none => simp [lastMessage,empty]
      | some fault =>
        have same : lastMessage chunk (some fault) = lastMessage [] (some fault) := by
          cases fault <;> rfl
        simp [same,Nat.ne_of_lt short]
  | cons record left ih =>
    have split : chunk ++ record :: left = chunk ++ [record] ++ left := by simp
    unfold gathered
    by_cases full : (chunk ++ [record]).length = size
    · have rest := @ih [] positive
      rw [if_pos full,split,recordChunks_full positive full,rest]
      rfl
    · have short : (chunk ++ [record]).length < size := by
        rw [List.length_append,List.length_singleton] at full ⊢
        omega
      rw [if_neg full,split,ih short]

theorem lastMessage_length (chunk : List Csv.Record) (fault : Option CsvFault) :
    (lastMessage chunk fault).length ≤ 1 := by
  unfold lastMessage
  split
  · split <;> simp
  · simp
  · simp

theorem gathered_length (size : Nat) (fault : Option CsvFault) (chunk left : List Csv.Record) :
    (gathered size fault chunk left).length ≤ left.length + 1 := by
  induction left generalizing chunk with
  | nil => exact lastMessage_length chunk fault
  | cons record left ih =>
    unfold gathered
    split
    · simpa using ih []
    · exact Nat.le_succ_of_le (ih _)

-- Whether the reader dies behind the last record.
def diesOf (fault : Option CsvFault) : Bool := fault = some .readerStopped

-- What is made of these messages, the reader having died behind the last of them or not.
def drain (options : Options) (table : Ident) (schema : TableSchema) (died : Bool) :
    Report → List Message → LoadTask ρ Report
  | report,[] => conclude table report (if died then some .readerStopped else none)
  | report,.ok chunk :: left => do
    drain options table schema died (← insertChunk options table schema report chunk) left
  | report,.error fault :: _ => throw (report.stop (.csv fault))

theorem drain_chunks (options : Options) (table : Ident) (schema : TableSchema) (died : Bool)
    (report : Report) (chunks : List (List Csv.Record)) (left : List Message) :
    drain (ρ := ρ) options table schema died report (chunks.map .ok ++ left) =
      insertChunks options table schema report chunks >>= fun next =>
        drain options table schema died next left := by
  induction chunks generalizing report with
  | nil => rfl
  | cons chunk chunks ih =>
    rw [List.map_cons,List.cons_append,drain,insertChunks,bind_assoc]
    exact congrArg _ (funext fun next => ih next)

theorem drain_last (options : Options) (table : Ident) (schema : TableSchema) (report : Report)
    (fault : Option CsvFault) : drain (ρ := ρ) options table schema (diesOf fault) report
      (lastMessage [] fault) = conclude table report fault := by
  cases fault with
  | none => rfl
  | some fault => cases fault <;> rfl

-- Taking the messages of a feed one by one is inserting it as it is.
theorem drain_feed (options : Options) (table : Ident) (schema : TableSchema) (feed : Feed) :
    drain (ρ := ρ) options table schema (diesOf feed.fault) Report.empty
      (feed.chunks.map .ok ++ lastMessage [] feed.fault) = insertAll options table schema feed := by
  rw [drain_chunks]
  exact congrArg _ (funext fun report => drain_last options table schema report feed.fault)

end DataAccess.Load
