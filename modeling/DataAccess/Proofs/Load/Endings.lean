import DataAccess.Proofs.Load.Course
import DataAccess.Proofs.Load.Feeds
import DataAccess.Proofs.Load.Preparation

-- A load from its source to its report. Every record goes into one statement, with the others of
-- its slice; the load goes on until the source is at fault, a record does not convert or a
-- statement is refused, and what it reports as committed is what was inserted before.
namespace DataAccess.Load

def inAll (numbers : List Nat) : Nat := numbers.foldr (· + ·) 0

theorem inAll_cons (n : Nat) (numbers : List Nat) : inAll (n :: numbers) = n + inAll numbers := rfl

theorem inAll_append (first second : List Nat) :
    inAll (first ++ second) = inAll first + inAll second := by
  induction first with
  | nil => exact (Nat.zero_add _).symm
  | cons n first ih => rw [List.cons_append,inAll_cons,ih,inAll_cons,Nat.add_assoc]

-- So many statements are accepted, and change so many rows in all.
def Committed (replies : List Reply) (n : Nat) (total : UInt64) : Prop :=
  ∃ counts : List UInt64, counts.length = n ∧ Accepts replies counts ∧
    total.toNat = inAll (counts.map UInt64.toNat)

-- Where a load of these records ends that can insert so many at a time: after how many statements,
-- and with what. The source is at fault behind its last record, if it is.
inductive Ends (schema : TableSchema) (size : Nat) (records : List Csv.Record)
    (fault : Option CsvFault) (replies : List Reply) : Nat → Except Stopped Report → Prop
  | complete (sound : fault = none) (all : ∀ r ∈ records, Converts schema r)
      (committed : Committed replies ((records.length + size - 1) / size) total) :
      Ends schema size records fault replies ((records.length + size - 1) / size)
        (.ok ⟨total,(records.length + size - 1) / size⟩)
  | faulty (broken : fault = some found)
      (before : ∀ r ∈ records.take (records.length / size * size), Converts schema r)
      (committed : Committed replies (records.length / size) total) :
      Ends schema size records fault replies (records.length / size) (.error ⟨total,.csv found⟩)
  | cell (at_k : records[k]? = some record) (failed : converted schema record = .error e)
      (before : ∀ r ∈ records.take k, Converts schema r)
      (handed : fault = none ∨ k / size < records.length / size)
      (committed : Committed replies (k / size) total) :
      Ends schema size records fault replies (k / size) (.error ⟨total,e⟩)
  | refused (handed : i * size < records.length ∧ (fault = none ∨ i < records.length / size))
      (before : ∀ r ∈ records.take ((i + 1) * size), Converts schema r)
      (committed : Committed replies i total) (refusal : answer replies i = .error e) :
      Ends schema size records fault replies (i + 1) (.error ⟨total,e⟩)

theorem Accepts.unique (first : Accepts replies counts) (second : Accepts replies others)
    (same : counts.length = others.length) : counts = others := by
  refine List.ext_getElem same fun i inside within => ?_
  have one := first i _ (List.getElem?_eq_getElem inside)
  have other := second i _ (List.getElem?_eq_getElem within)
  exact Except.ok.inj (one.symm.trans other)

theorem unconverted_of_error {schema : TableSchema} {chunk : List Csv.Record}
    (failed : chunkValues schema chunk = .error e) : ¬∀ r ∈ chunk, Converts schema r := by
  intro all
  obtain ⟨j,record,at_j,own,_⟩ := chunkValues_error.mp failed
  obtain ⟨row,read⟩ := all record (List.mem_of_getElem? at_j)
  cases own.symm.trans read

theorem Halts.unique {chunks : List (List Csv.Record)} {replies : List Reply}
    (first : Halts schema chunks replies report accepted n result)
    (second : Halts schema chunks replies report accepted m other) : m = n ∧ other = result := by
  have inside {chunk} : chunks[accepted]? = some chunk → accepted ≠ chunks.length := fun at_chunk =>
    Nat.ne_of_lt (List.getElem?_eq_some_iff.mp at_chunk).1
  cases first with
  | finished last =>
    cases second with
    | finished => exact ⟨rfl,rfl⟩
    | unconverted at_chunk | refused at_chunk => exact absurd last (inside at_chunk)
  | unconverted at_chunk failed =>
    cases second with
    | finished last => exact absurd last (inside at_chunk)
    | unconverted at_other failed' =>
      cases at_chunk.symm.trans at_other
      cases failed.symm.trans failed'
      exact ⟨rfl,rfl⟩
    | refused at_other converts =>
      cases at_chunk.symm.trans at_other
      exact absurd converts (unconverted_of_error failed)
  | refused at_chunk converts refusal =>
    cases second with
    | finished last => exact absurd last (inside at_chunk)
    | unconverted at_other failed =>
      cases at_chunk.symm.trans at_other
      exact absurd converts (unconverted_of_error failed)
    | refused at_other _ refusal' =>
      cases refusal.symm.trans refusal'
      exact ⟨rfl,rfl⟩

-- Inserting gets behind the chunks that are accepted, and halts there.
structure Halted (schema : TableSchema) (chunks : List (List Csv.Record)) (replies : List Reply)
    (counts : List UInt64) (n : Nat) (result : Except Stopped Report) : Prop where
  accepts : Accepts replies counts
  converts : ∀ i chunk, i < counts.length → chunks[i]? = some chunk → ∀ r ∈ chunk, Converts schema r
  halts : Halts schema chunks replies (counts.foldl Report.add Report.empty) counts.length n result

namespace Halted

variable {chunks : List (List Csv.Record)} {replies : List Reply} {counts others : List UInt64}

theorem length_le (halted : Halted schema chunks replies counts n result) :
    counts.length ≤ chunks.length := by
  cases halted.halts with
  | finished last => exact Nat.le_of_eq last
  | unconverted at_chunk | refused at_chunk =>
    exact Nat.le_of_lt (List.getElem?_eq_some_iff.mp at_chunk).1

theorem not_further (first : Halted schema chunks replies counts n result)
    (second : Halted schema chunks replies others m other) : ¬counts.length < others.length := by
  intro further
  have within := second.length_le
  cases first.halts with
  | finished last => omega
  | unconverted at_chunk failed =>
    exact unconverted_of_error failed (second.converts _ _ further at_chunk)
  | refused at_chunk converts refusal =>
    have accepted := second.accepts _ _ (List.getElem?_eq_getElem further)
    cases refusal.symm.trans accepted

theorem unique (first : Halted schema chunks replies counts n result)
    (second : Halted schema chunks replies others m other) : m = n ∧ other = result := by
  have same : counts.length = others.length :=
    Nat.le_antisymm (Nat.le_of_not_lt (second.not_further first))
      (Nat.le_of_not_lt (first.not_further second))
  obtain rfl := first.accepts.unique second.accepts same
  exact first.halts.unique second.halts

end Halted

theorem report_rows (counts : List UInt64) (report : Report)
    (bounded : report.rowsInserted.toNat + inAll (counts.map UInt64.toNat) < UInt64.size) :
    (counts.foldl Report.add report).rowsInserted.toNat =
      report.rowsInserted.toNat + inAll (counts.map UInt64.toNat) := by
  induction counts generalizing report with
  | nil => rfl
  | cons n counts ih =>
    rw [List.map_cons,inAll_cons,← Nat.add_assoc] at bounded ⊢
    have added : (report.add n).rowsInserted.toNat = report.rowsInserted.toNat + n.toNat := by
      have fits : report.rowsInserted.toNat + n.toNat < UInt64.size := by omega
      rw [Report.add,UInt64.toNat_add]
      exact Nat.mod_eq_of_lt fits
    rw [List.foldl_cons,ih (report.add n) (by rw [added]; exact bounded),added]

theorem report_batches (counts : List UInt64) (report : Report) :
    (counts.foldl Report.add report).batches = report.batches + counts.length := by
  induction counts generalizing report with
  | nil => rfl
  | cons n counts ih =>
    rw [List.foldl_cons,ih,List.length_cons,Nat.add_comm counts.length,← Nat.add_assoc]
    rfl

theorem report_eq {counts : List UInt64} {total : UInt64}
    (same : total.toNat = inAll (counts.map UInt64.toNat)) :
    counts.foldl Report.add Report.empty = ⟨total,counts.length⟩ := by
  have bounded : Report.empty.rowsInserted.toNat + inAll (counts.map UInt64.toNat) < UInt64.size := by
    rw [← same]
    simpa [Report.empty] using total.toNat_lt
  have rows := report_rows counts Report.empty bounded
  have batches := report_batches counts Report.empty
  rw [← same] at rows
  refine (Report.mk.injEq ..).mpr ⟨UInt64.toNat_inj.mp ?_,?_⟩
  · simpa [Report.empty] using rows
  · simpa [Report.empty] using batches

theorem chunk_at {size : Nat} (positive : 0 < size) {records chunk : List Csv.Record} {faulty : Bool} :
    (recordChunks size records faulty)[i]? = some chunk ↔
      i < sliceCount size records.length faulty ∧ slice size records i = chunk := by
  simp [recordChunks_eq positive,List.getElem?_eq_some_iff,and_assoc]

theorem handed_iff {size : Nat} (positive : 0 < size) {records : Nat} {fault : Option CsvFault} :
    i < sliceCount size records fault.isSome ↔
      i * size < records ∧ (fault = none ∨ i < records / size) := by
  have short : i < (records + size - 1) / size ↔ i * size < records := by
    rw [← Nat.succ_le_iff,Nat.le_div_iff_mul_le positive,Nat.succ_mul]
    omega
  cases fault with
  | none => simpa [sliceCount] using short
  | some fault =>
    have full : i < records / size → i * size < records := by
      rw [← Nat.succ_le_iff,Nat.le_div_iff_mul_le positive,Nat.succ_mul]
      omega
    simpa [sliceCount] using full

theorem converts_iff {size : Nat} (positive : 0 < size) {records : List Csv.Record} {faulty : Bool}
    (within : a ≤ sliceCount size records.length faulty) :
    (∀ (i : Nat) chunk, i < a → (recordChunks size records faulty)[i]? = some chunk →
        ∀ r ∈ chunk, Converts schema r) ↔ ∀ r ∈ records.take (a * size), Converts schema r := by
  rw [← slices_flatMap]
  constructor
  · intro each r member
    obtain ⟨i,inside,from_i⟩ := List.mem_flatMap.mp member
    have before := List.mem_range.mp inside
    exact each i _ before ((chunk_at positive).mpr ⟨Nat.lt_of_lt_of_le before within,rfl⟩) r from_i
  · intro all i chunk before at_i r member
    obtain ⟨_,rfl⟩ := (chunk_at positive).mp at_i
    exact all r (List.mem_flatMap.mpr ⟨i,List.mem_range.mpr before,member⟩)

-- What a load ends with where inserting has halted with this: a fault of the source comes last.
def concluded (fault : Option CsvFault) : Except Stopped Report → Except Stopped Report
  | .ok report =>
    match fault with
    | none => .ok report
    | some found => .error (report.stop (.csv found))
  | .error stopped => .error stopped

theorem take_slice {size : Nat} (records : List α) (a : Nat) {j : Nat} (inside : j ≤ size) :
    records.take (a * size + j) = records.take (a * size) ++ (slice size records a).take j := by
  rw [List.take_add,slice,List.take_take,Nat.min_eq_left inside]

theorem take_next (size : Nat) (records : List α) (a : Nat) :
    records.take ((a + 1) * size) = records.take (a * size) ++ slice size records a := by
  rw [Nat.succ_mul,take_slice records a (Nat.le_refl size),slice,List.take_take,Nat.min_self]

theorem slice_at {size : Nat} {records : List α} {a j : Nat} :
    (slice size records a)[j]? = some r ↔ j < size ∧ records[a * size + j]? = some r := by
  rw [slice,List.getElem?_take]
  split
  · rename_i inside
    rw [List.getElem?_drop]
    exact (and_iff_right inside).symm
  · rename_i outside
    exact ⟨(fun none => by cases none),fun both => absurd both.1 outside⟩

section

variable {schema : TableSchema} {size : Nat} {records : List Csv.Record} {fault : Option CsvFault}
  {replies : List Reply} (positive : 0 < size)

include positive

theorem Halted.ends {counts : List UInt64} {total : UInt64}
    (same : total.toNat = inAll (counts.map UInt64.toNat))
    (halted : Halted schema (recordChunks size records fault.isSome) replies counts n result) :
    Ends schema size records fault replies n (concluded fault result) := by
  have committed : Committed replies counts.length total := ⟨counts,rfl,halted.accepts,same⟩
  have within := halted.length_le
  rw [recordChunks_eq positive,List.length_map,List.length_range] at within
  have before := (converts_iff positive within).mp halted.converts
  have halts := halted.halts
  rw [report_eq same] at halts
  cases halts with
  | finished last =>
    rw [recordChunks_eq positive,List.length_map,List.length_range] at last
    cases fault with
    | none =>
      have all : records.length ≤ counts.length * size := by
        refine Nat.le_of_not_lt fun short => ?_
        have further : counts.length < sliceCount size records.length (none : Option CsvFault).isSome :=
          (handed_iff positive).mpr ⟨short,.inl rfl⟩
        exact Nat.ne_of_lt further last
      rw [List.take_of_length_le all] at before
      change Ends schema size records none replies counts.length (.ok ⟨total,counts.length⟩)
      rw [last] at committed ⊢
      exact .complete rfl before committed
    | some found =>
      change Ends schema size records (some found) replies counts.length (.error ⟨total,.csv found⟩)
      rw [last] at before committed ⊢
      exact .faulty rfl before committed
  | unconverted at_chunk failed =>
    obtain ⟨handed,rfl⟩ := (chunk_at positive).mp at_chunk
    obtain ⟨j,record,at_j,own,earlier⟩ := chunkValues_error.mp failed
    obtain ⟨inside,at_k⟩ := slice_at.mp at_j
    obtain ⟨k,place,quotient⟩ : ∃ k, counts.length * size + j = k ∧ k / size = counts.length := by
      refine ⟨_,rfl,?_⟩
      rw [Nat.mul_comm,Nat.mul_add_div positive,Nat.div_eq_of_lt inside,Nat.add_zero]
    have converts : ∀ r ∈ records.take k, Converts schema r := by
      intro r member
      rw [← place,take_slice records counts.length (Nat.le_of_lt inside)] at member
      rcases List.mem_append.mp member with early | late
      · exact before r early
      · exact earlier r late
    have reached := ((handed_iff positive).mp handed).2
    rw [place] at at_k
    change Ends schema size records fault replies counts.length (.error ⟨total,_⟩)
    rw [← quotient] at committed reached ⊢
    exact .cell at_k own converts reached committed
  | refused at_chunk converts refusal =>
    obtain ⟨handed,rfl⟩ := (chunk_at positive).mp at_chunk
    refine .refused ((handed_iff positive).mp handed) (fun r member => ?_) committed refusal
    rw [take_next] at member
    rcases List.mem_append.mp member with early | late
    · exact before r early
    · exact converts r late

theorem Halted.of_committed (committed : Committed replies a total)
    (within : a ≤ sliceCount size records.length fault.isSome)
    (before : ∀ r ∈ records.take (a * size), Converts schema r)
    (halts : Halts schema (recordChunks size records fault.isSome) replies ⟨total,a⟩ a n result) :
    ∃ counts, Halted schema (recordChunks size records fault.isSome) replies counts n result := by
  obtain ⟨counts,rfl,accepts,same⟩ := committed
  rw [← report_eq same] at halts
  exact ⟨counts,accepts,(converts_iff positive within).mpr before,halts⟩

theorem Ends.halted (ends : Ends schema size records fault replies n result) :
    ∃ counts inner, Halted schema (recordChunks size records fault.isSome) replies counts n inner ∧
      concluded fault inner = result := by
  have number (faulty : Bool) : (recordChunks size records faulty).length =
      sliceCount size records.length faulty := by
    rw [recordChunks_eq positive,List.length_map,List.length_range]
  cases ends with
  | @complete total sound all committed =>
    subst sound
    have within := Nat.le_refl (sliceCount size records.length (none : Option CsvFault).isSome)
    obtain ⟨counts,halted⟩ := Halted.of_committed positive committed within
      (fun r member => all r (List.mem_of_mem_take member)) (.finished (number false).symm)
    exact ⟨counts,_,halted,rfl⟩
  | @faulty found total broken before committed =>
    subst broken
    have within := Nat.le_refl (sliceCount size records.length (some found).isSome)
    obtain ⟨counts,halted⟩ := Halted.of_committed positive committed within before
      (.finished (number true).symm)
    exact ⟨counts,_,halted,rfl⟩
  | @cell k record e total at_k failed before handed committed =>
    have place : k / size * size + k % size = k := Nat.div_add_mod' k size
    have rest : k % size < size := Nat.mod_lt k positive
    have split := take_slice records (k / size) (Nat.le_of_lt rest)
    rw [place] at split
    have counted : k / size * size < records.length :=
      Nat.lt_of_le_of_lt (Nat.div_mul_le_self k size) (List.getElem?_eq_some_iff.mp at_k).1
    have inside := (handed_iff positive).mpr ⟨counted,handed⟩
    have chunk_fails : chunkValues schema (slice size records (k / size)) = .error e := by
      refine chunkValues_error.mpr ⟨k % size,record,slice_at.mpr ⟨rest,by rwa [place]⟩,failed,?_⟩
      intro r member
      exact before r (by rw [split]; exact List.mem_append_right _ member)
    obtain ⟨counts,halted⟩ := Halted.of_committed positive committed (Nat.le_of_lt inside)
      (fun r member => before r (by rw [split]; exact List.mem_append_left _ member))
      (.unconverted ((chunk_at positive).mpr ⟨inside,rfl⟩) chunk_fails)
    exact ⟨counts,_,halted,rfl⟩
  | @refused i total e handed before committed refusal =>
    have inside := (handed_iff positive).mpr handed
    have split := take_next size records i
    obtain ⟨counts,halted⟩ := Halted.of_committed positive committed (Nat.le_of_lt inside)
      (fun r member => before r (by rw [split]; exact List.mem_append_left _ member))
      (.refused ((chunk_at positive).mpr ⟨inside,rfl⟩)
        (fun r member => before r (by rw [split]; exact List.mem_append_right _ member)) refusal)
    exact ⟨counts,_,halted,rfl⟩

theorem Ends.unique (first : Ends schema size records fault replies n result)
    (second : Ends schema size records fault replies m other) : m = n ∧ other = result := by
  obtain ⟨counts,inner,halted,rfl⟩ := first.halted positive
  obtain ⟨others,inner',halted',rfl⟩ := second.halted positive
  obtain ⟨same,rfl⟩ := halted.unique halted'
  exact ⟨same,rfl⟩

end

-- A table made ready for what was handed over, and the columns as they are to be filled. Without
-- records the table is left alone.
inductive Prepared (options : Options) (table : Ident) (handed : Feed) (db : Db ρ) :
    TableSchema → Db ρ → Prop
  | unneeded (empty : handed.sampled = 0) : Prepared options table handed db handed.schema db
  | opened (some : handed.sampled ≠ 0)
      (made : openTable options table handed.schema db = (.ok schema,opened)) :
      Prepared options table handed db schema opened

-- How many rows a reply says were changed.
def changes : Reply → Nat
  | .affected n => n.toNat
  | _ => 0

theorem sum_accepted {replies : List Reply} {counts : List UInt64} (accepts : Accepts replies counts) :
    inAll (counts.map UInt64.toNat) ≤ inAll (replies.map changes) := by
  induction counts generalizing replies with
  | nil => exact Nat.zero_le _
  | cons n counts ih =>
    have first : answer replies 0 = .ok n := accepts 0 n rfl
    have later : Accepts replies.tail counts := by
      intro i m at_i
      rw [answer_tail]
      exact accepts (i + 1) m (by simpa using at_i)
    have rest := ih later
    rw [List.map_cons,inAll_cons]
    cases replies with
    | nil =>
      cases first
      simpa [Outcome.count] using rest
    | cons reply replies =>
      have own : n.toNat ≤ changes reply := by
        cases reply with
        | rows rows | affected m => cases first; exact Nat.le_refl _
        | failure e => cases first
      exact Nat.add_le_add own rest

theorem Accepts.total {replies : List Reply} {counts : List UInt64} (accepts : Accepts replies counts)
    (script : inAll (replies.map changes) < UInt64.size) :
    (counts.foldl Report.add Report.empty).rowsInserted.toNat = inAll (counts.map UInt64.toNat) := by
  have bounded := Nat.lt_of_le_of_lt (sum_accepted accepts) script
  have rows := report_rows counts Report.empty (by simpa [Report.empty] using bounded)
  simpa [Report.empty] using rows

theorem Course.halted {chunks : List (List Csv.Record)} {replies : List Reply}
    (course : Course schema table Report.empty chunks replies ss result) :
    (∃ counts, Halted schema chunks replies counts ss.length result) ∧ ∀ (i : Nat) s, ss[i]? = some s →
      ∃ chunk, chunks[i]? = some chunk ∧ Inserts schema table chunk s := by
  obtain ⟨counts,accepts,halts,each⟩ := course.halts
  refine ⟨⟨counts,accepts,fun i chunk before at_i => ?_,halts⟩,each⟩
  have sent : i < ss.length := Nat.lt_of_lt_of_le before halts.accepted_le
  obtain ⟨other,at_other,inserts⟩ := each i _ (List.getElem?_eq_getElem sent)
  cases at_i.symm.trans at_other
  exact Inserts.converts inserts

theorem tried_run {tried : Except Error α} (succeeded : tried = .ok a) (report : Report)
    (next : α → LoadTask ρ β) (db : Db ρ) :
    (report.after (liftM tried : Task ρ α) >>= next) db = next a db := by
  rw [bind_run,after_run,succeeded]
  rfl

theorem conclude_run (table : Ident) (report : Report) (fault : Option CsvFault) (db : Db ρ) :
    ∃ acts, db.backend.Grown acts 0 (conclude table report fault db).2.backend ∧ Sends acts [] ∧
      (conclude table report fault db).1 = concluded fault (.ok report) := by
  cases fault with
  | some found => exact ⟨[],.refl _,.nil,rfl⟩
  | none =>
    exact ⟨_,Backend.log_grown _ (.loadFinished table.sql report.rowsInserted report.batches),
      .logged _,rfl⟩

-- Inserting all that was handed over, and what comes after it.
def insertAll (options : Options) (table : Ident) (schema : TableSchema) (handed : Feed) :
    LoadTask ρ Report := do
  conclude table (← insertChunks options table schema Report.empty handed.chunks) handed.fault

theorem recordChunks_fit {size : Nat} (positive : 0 < size) {records : List Csv.Record}
    (even : ∀ r ∈ records, r.fields.length = width) (fault : Option CsvFault) :
    ∀ chunk ∈ recordChunks size records fault.isSome,
      chunk ≠ [] ∧ chunk.length ≤ size ∧ ∀ r ∈ chunk, r.fields.length = width := by
  intro chunk member
  obtain ⟨i,at_i⟩ := List.getElem?_of_mem member
  obtain ⟨within,rfl⟩ := (chunk_at positive).mp at_i
  have counted := ((handed_iff positive).mp within).1
  refine ⟨?_,List.length_take_le _ _,fun r inside => ?_⟩
  · rw [← List.length_pos_iff,slice,List.length_take,List.length_drop]
    omega
  · exact even r (List.mem_of_mem_drop (List.mem_of_mem_take inside))

-- From this state on the records of the document are inserted as they should be, slice by slice up
-- to where they end, with this result and in this state afterwards.
def InsertsAll (options : Options) (table : Ident) (schema : TableSchema) (document : Csv.Document)
    (before : Db ρ) (run : Except Stopped Report × Db ρ) : Prop :=
  ∃ acts ss taken, before.backend.Grown acts taken run.2.backend ∧ Sends acts ss ∧
    (∀ (i : Nat) s, ss[i]? = some s →
      Inserts schema table (slice options.chunkSize document.records i) s) ∧
    Ends schema options.chunkSize document.records document.fault before.backend.replies ss.length
      run.1

theorem insertAll_course {options : Options} {document : Csv.Document} {handed : Feed}
    {schema : TableSchema} (positive : 0 < options.chunkSize) (whole : Handed options document handed)
    (even : ∀ r ∈ document.records, r.fields.length = handed.schema.columns.length)
    (names : schema.columnNames = handed.schema.columnNames) (table : Ident) {opened : Db ρ}
    (ready : opened.backend.availability.refusal? = none) : ∃ acts ss taken inner,
      opened.backend.Grown acts taken (insertAll options table schema handed opened).2.backend ∧
      Sends acts ss ∧ Course schema table Report.empty
        (recordChunks options.chunkSize document.records document.fault.isSome)
        opened.backend.replies ss inner ∧
      (insertAll options table schema handed opened).1 = concluded document.fault inner := by
  unfold insertAll
  rw [whole.chunks,whole.fault,bind_run]
  have fit := recordChunks_fit positive even document.fault
  rw [← TableSchema.columns_length names] at fit
  obtain ⟨acts,ss,grown,sends,course⟩ := insertChunks_course (whole.fillable.renamed names) options
    table (fun c member => (fit c member).1) (fun c member => (fit c member).2.1)
    (fun c member => (fit c member).2.2) Report.empty ready
  cases ran : insertChunks options table schema Report.empty
      (recordChunks options.chunkSize document.records document.fault.isSome) opened with
  | mk inner middle =>
    rw [ran] at grown course
    cases inner with
    | error stopped => exact ⟨acts,ss,_,_,grown,sends,course,rfl⟩
    | ok report =>
      obtain ⟨more,later,nothing,result⟩ := conclude_run table report document.fault middle
      have all := sends.append nothing
      rw [List.append_nil] at all
      exact ⟨acts ++ more,ss,_,_,grown.trans later,all,course,result⟩

theorem Course.slices {size : Nat} (positive : 0 < size) {records : List Csv.Record} {faulty : Bool}
    (course : Course schema table Report.empty (recordChunks size records faulty) replies ss result) :
    ∀ (i : Nat) s, ss[i]? = some s → Inserts schema table (slice size records i) s := by
  intro i s sent
  obtain ⟨chunk,at_i,inserts⟩ := course.halted.2 i s sent
  obtain ⟨_,rfl⟩ := (chunk_at positive).mp at_i
  exact inserts

theorem insertAll_ends {options : Options} {document : Csv.Document} {handed : Feed}
    {schema : TableSchema} (positive : 0 < options.chunkSize) (whole : Handed options document handed)
    (even : ∀ r ∈ document.records, r.fields.length = handed.schema.columns.length)
    (names : schema.columnNames = handed.schema.columnNames) (table : Ident) {opened : Db ρ}
    (ready : opened.backend.availability.refusal? = none)
    (script : inAll (opened.backend.replies.map changes) < UInt64.size) :
    InsertsAll options table schema document opened
      (insertAll options table schema handed opened) := by
  obtain ⟨acts,ss,taken,inner,grown,sends,course,result⟩ :=
    insertAll_course positive whole even names table ready
  obtain ⟨⟨counts,halted⟩,_⟩ := course.halted
  have ends := Halted.ends positive (halted.accepts.total script) halted
  rw [← result] at ends
  exact ⟨acts,ss,taken,grown,sends,course.slices positive,ends⟩

theorem Options.validate_ok {options : Options} (valid : options.validate = .ok ()) :
    0 < options.chunkSize ∧ 0 < options.sampleSize := by
  unfold validate at valid
  split at valid
  · cases valid
  · split at valid
    · cases valid
    · omega

theorem Handed.empty {options : Options} {document : Csv.Document} {handed : Feed}
    (whole : Handed options document handed) (sampling : 0 < options.sampleSize)
    (empty : handed.sampled = 0) : document.records = [] ∧ document.fault = none := by
  have counted := whole.sampled
  have none : document.records.length = 0 := by omega
  refine ⟨List.length_eq_zero_iff.mp none,?_⟩
  cases faulty : document.fault with
  | none => rfl
  | some fault =>
    have past := whole.past (by rw [faulty]; rfl)
    omega

theorem Ends.nothing (schema : TableSchema) {size : Nat} (positive : 0 < size)
    (replies : List Reply) : Ends schema size [] none replies 0 (.ok Report.empty) := by
  have zero : (([] : List Csv.Record).length + size - 1) / size = 0 :=
    Nat.div_eq_of_lt (by rw [List.length_nil]; omega)
  have committed : Committed replies ((([] : List Csv.Record).length + size - 1) / size) 0 :=
    ⟨[],zero.symm,by simp [Accepts],rfl⟩
  have ends : Ends schema size [] none replies _ _ := .complete rfl (by simp) committed
  rw [zero] at ends
  exact ends

theorem changes_left {first last : Backend} (grown : first.Grown acts taken last) :
    inAll (last.replies.map changes) ≤ inAll (first.replies.map changes) := by
  have parts := congrArg (fun l => inAll (l.map changes)) (List.take_append_drop taken first.replies)
  simp only [List.map_append,inAll_append] at parts
  rw [grown.replies]
  omega

theorem insertFeed_ends {options : Options} {document : Csv.Document} {handed : Feed}
    {schema : TableSchema} {table : Ident} {db opened : Db ρ} (positive : 0 < options.chunkSize)
    (sampling : 0 < options.sampleSize) (whole : Handed options document handed)
    (even : ∀ r ∈ document.records, r.fields.length = handed.schema.columns.length)
    (prepared : Prepared options table handed db schema opened)
    (script : inAll (db.backend.replies.map changes) < UInt64.size) :
    InsertsAll options table schema document opened (insertFeed options table handed db) := by
  cases prepared with
  | unneeded empty =>
    obtain ⟨none,sound⟩ := whole.empty sampling empty
    rw [InsertsAll,none,sound,insertFeed,if_pos empty]
    exact ⟨_,[],0,Backend.log_grown _ (.emptySource table.sql),.logged _,by simp,
      .nothing _ positive _⟩
  | opened some made =>
    obtain ⟨acts,taken,grown⟩ := openTable_grows options table handed.schema db
    have lent := openTable_needs options table handed.schema db schema (by rw [made])
    have names := openTable_names options table handed.schema db schema (by rw [made])
    rw [made] at grown
    have ready : opened.backend.availability.refusal? = none := by rw [grown.availability,lent]
    have later := Nat.lt_of_le_of_lt (changes_left grown) script
    rw [insertFeed,if_neg some,bind_run,made]
    exact insertAll_ends positive whole even names table ready later

-- A load whose source, options and table are in order: what it sends once the table is ready, and how
-- it ends. The end is the one that its records, its fault and its replies have.
theorem load_ends {options : Options} {name : String} {source : Csv.Source} {table : Ident}
    {handed : Feed} {schema : TableSchema} {db opened : Db ρ} (valid : options.validate = .ok ())
    (named : Ident.parse name = .ok table) (fed : feed options source.document = .ok handed)
    (prepared : Prepared options table handed db schema opened)
    (script : inAll (db.backend.replies.map changes) < UInt64.size) :
    ∃ acts ss, (load options name source db).2.backend.journal.toList =
        opened.backend.journal.toList ++ acts ∧ Sends acts ss ∧
      (∀ (i : Nat) s, ss[i]? = some s →
        Inserts schema table (slice options.chunkSize source.document.records i) s) ∧
      (List.range ss.length).flatMap (slice options.chunkSize source.document.records) =
        source.document.records.take (ss.length * options.chunkSize) ∧
      ∀ n result, Ends schema options.chunkSize source.document.records source.document.fault
        opened.backend.replies n result ↔ n = ss.length ∧ result = (load options name source db).1 := by
  have ran : load options name source db = insertFeed options table handed db := by
    unfold load
    exact (tried_run valid _ _ db).trans
      ((tried_run named _ _ db).trans (tried_run fed _ (insertFeed options table) db))
  obtain ⟨positive,sampling⟩ := Options.validate_ok valid
  have whole := feed_handed fed
  have even : ∀ r ∈ source.document.records, r.fields.length = handed.schema.columns.length := by
    obtain ⟨header,read,counted⟩ := whole.width
    rw [counted]
    exact Csv.Source.document_width read
  obtain ⟨acts,ss,taken,grown,sends,inserts,ends⟩ :=
    insertFeed_ends positive sampling whole even prepared script
  rw [ran]
  refine ⟨acts,ss,grown.journal,sends,inserts,slices_flatMap _ _ _,fun n result => ⟨?_,?_⟩⟩
  · intro other
    exact ends.unique positive other
  · rintro ⟨rfl,rfl⟩
    exact ends

namespace Sample

-- Three records under one header, inserted two at a time into a table made anew; the last of them
-- is refused.
def source : Csv.Source := ⟨[105,100,10,49,10,50,10,51,10],.complete⟩

def options : Options := ⟨2,1,true,true,false,false,false⟩

def table : Ident := ⟨["t"],by decide,by decide⟩

def schema : TableSchema := ⟨[("id",.integer)]⟩

def start : Db Nat :=
  .ofBackend (.start .ready [.affected 0,.affected 0,.affected 2,.failure (.query "denied" none)])

end Sample

theorem load_ends_refused : ∃ opened acts ss,
    Prepared Sample.options Sample.table ⟨Sample.schema,1,[[⟨["1"],2⟩,⟨["2"],3⟩],[⟨["3"],4⟩]],none⟩
      Sample.start Sample.schema opened ∧
    (load Sample.options "t" Sample.source Sample.start).2.backend.journal.toList =
      opened.backend.journal.toList ++ acts ∧ Sends acts ss ∧ ss.length = 2 ∧
    (load Sample.options "t" Sample.source Sample.start).1 = .error ⟨2,.query "denied" none⟩ := by
  have read : Sample.source.document =
      ⟨.ok ["id"],[⟨["1"],2⟩,⟨["2"],3⟩,⟨["3"],4⟩],none⟩ := by rfl
  have cut : recordChunks 2 [⟨["1"],2⟩,⟨["2"],3⟩,⟨["3"],4⟩] false =
      [[⟨["1"],2⟩,⟨["2"],3⟩],[⟨["3"],4⟩]] := by decide +kernel
  have fed : feed Sample.options Sample.source.document =
      .ok ⟨Sample.schema,1,[[⟨["1"],2⟩,⟨["2"],3⟩],[⟨["3"],4⟩]],none⟩ := by
    rw [read]
    exact congrArg (fun chunks => Except.ok (Feed.mk Sample.schema 1 chunks none)) cut
  have prepared : ∃ opened, Prepared Sample.options Sample.table
      ⟨Sample.schema,1,[[⟨["1"],2⟩,⟨["2"],3⟩],[⟨["3"],4⟩]],none⟩ Sample.start Sample.schema opened ∧
        opened.backend.replies = [.affected 2,.failure (.query "denied" none)] :=
    ⟨_,.opened (by decide) rfl,rfl⟩
  obtain ⟨opened,prepared,left⟩ := prepared
  have valid : Sample.options.validate = .ok () := rfl
  have named : Ident.parse "t" = .ok Sample.table := rfl
  have script : inAll (Sample.start.backend.replies.map changes) < UInt64.size := by decide
  obtain ⟨acts,ss,written,sends,_,_,ends⟩ := load_ends valid named fed prepared script
  have converts : ∀ r ∈ ([⟨["1"],2⟩,⟨["2"],3⟩,⟨["3"],4⟩] : List Csv.Record),
      Converts Sample.schema r := by
    intro r member
    simp only [List.mem_cons,List.not_mem_nil,or_false] at member
    rcases member with rfl | rfl | rfl
    · exact ⟨[.int 1],rfl⟩
    · exact ⟨[.int 2],rfl⟩
    · exact ⟨[.int 3],rfl⟩
  have accepts : Accepts [.affected 2,.failure (.query "denied" none)] [2] := by
    intro i n at_i
    cases i with
    | zero => cases at_i; rfl
    | succ i => simp at at_i
  have last : Ends Sample.schema 2 [⟨["1"],2⟩,⟨["2"],3⟩,⟨["3"],4⟩] none
      [.affected 2,.failure (.query "denied" none)] (1 + 1) (.error ⟨2,.query "denied" none⟩) :=
    .refused (by decide) (fun r member => converts r (List.mem_of_mem_take member))
      ⟨[2],rfl,accepts,rfl⟩ rfl
  rw [read,left] at ends
  obtain ⟨number,result⟩ := (ends _ _).mp last
  exact ⟨opened,acts,ss,prepared,written,sends,number.symm,result.symm⟩

end DataAccess.Load
