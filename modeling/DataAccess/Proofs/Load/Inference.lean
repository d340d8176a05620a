import DataAccess.Proofs.Load.TableOptions
import DataAccess.Proofs.Number.WholeNumbers
import DataAccess.Proofs.Text.Ends

-- What is inferred from a sample. A column gets a type that is no narrower than that of any of its
-- cells, and a cell is read in every type that is not narrower than its own: whole numbers are
-- numbers, and everything is text. So the sample converts, and a load that has sampled all of its
-- records and makes its table does not fail for one of them.
namespace DataAccess.Load
open Calendar Number

namespace ColumnType

def Within (narrow wide : ColumnType) : Prop := narrow.widen wide = wide

theorem within_widen (own other : ColumnType) :
    Within own (own.widen other) ∧ Within other (own.widen other) := by
  cases own <;> cases other <;> exact ⟨rfl,rfl⟩

-- The types that a cell is inferred to have, or converts to.
inductive Reads (cell : String) : ColumnType → Prop
  | whole (read : readInt64? (Text.trim cell.toList) = some n) : Reads cell integer
  | finite (read : readFinite? (Text.trim cell.toList) = some x) : Reads cell float
  | date (read : readDate? cell = some d) : Reads cell date
  | text : Reads cell text

theorem ofCell_reads (cell : String) : Reads cell (ofCell cell) := by
  unfold ofCell
  dsimp only
  split
  · rename_i whole
    obtain ⟨n,read⟩ := Option.isSome_iff_exists.mp whole
    exact .whole read
  · split
    · rename_i finite
      obtain ⟨x,read⟩ := Option.isSome_iff_exists.mp finite
      exact .finite read
    · split
      · rename_i dated
        obtain ⟨d,read⟩ := Option.isSome_iff_exists.mp dated
        exact .date read
      · exact .text

theorem Reads.within (reads : Reads cell narrow) (within : Within narrow wide) : Reads cell wide := by
  cases reads with
  | whole read =>
    cases wide with
    | integer => exact .whole read
    | float =>
      obtain ⟨x,finite⟩ := readInt64?_finite read
      exact .finite finite
    | text => exact .text
    | unknown | date => cases within
  | finite read =>
    cases wide with
    | float => exact .finite read
    | text => exact .text
    | unknown | integer | date => cases within
  | date read =>
    cases wide with
    | date => exact .date read
    | text => exact .text
    | unknown | integer | float => cases within
  | text =>
    cases wide with
    | text => exact .text
    | unknown | integer | float | date => cases within

theorem readDate?_trimmed (cell : String) : readDate? (Text.trimmed cell) = readDate? cell := by
  unfold readDate?
  rw [Text.trimmed,String.toList_ofList,Text.trim_trim]

theorem Reads.converts (reads : Reads cell type) : ∃ v, type.toValue cell = .ok v := by
  unfold toValue
  dsimp only
  split
  · exact ⟨_,rfl⟩
  · cases reads with
    | whole read => simp [Text.trimmed,read]
    | finite read => simp [Text.trimmed,read]
    | date read => simp [readDate?_trimmed,read]
    | text => exact ⟨_,rfl⟩

-- A cell that a column of this type has room for. A blank one is NULL in every column.
def Covers (type : ColumnType) (cell : String) : Prop := Text.isAllBlank cell = true ∨ Reads cell type

theorem Covers.converts (covers : Covers type cell) : ∃ v, type.toValue cell = .ok v := by
  rcases covers with blank | reads
  · exact ⟨.null,if_pos ((Text.trimmed_empty cell).mpr blank)⟩
  · exact reads.converts

end ColumnType

namespace TableSchema
open ColumnType

theorem widenBy_covers (type : ColumnType) (cell : String) : Covers (widenBy type cell) cell := by
  unfold widenBy
  split
  · rename_i blank
    exact .inl blank
  · exact .inr ((ofCell_reads cell).within (within_widen type _).2)

theorem widenBy_keeps (covers : Covers type cell) (other : String) : Covers (widenBy type other) cell := by
  rcases covers with blank | reads
  · exact .inl blank
  · unfold widenBy
    split
    · exact .inr reads
    · exact .inr (reads.within (within_widen type _).1)

-- The columns have room for the cells that stand in them.
def Spans (columns : List (String × ColumnType)) (cells : List String) : Prop :=
  ∀ placed ∈ columns.zip cells, Covers placed.1.2 placed.2

theorem spans_cons {rest : List (String × ColumnType)} : Spans (column :: rest) (cell :: cells) ↔
    Covers column.2 cell ∧ Spans rest cells := List.forall_mem_cons

theorem observeCells_spans (columns : List (String × ColumnType)) (cells : List String) :
    Spans (observeCells columns cells) cells := by
  induction columns generalizing cells with
  | nil => simp [observeCells,Spans]
  | cons column columns ih =>
    cases cells with
    | nil => simp [observeCells,Spans]
    | cons cell cells => exact spans_cons.mpr ⟨widenBy_covers column.2 cell,ih cells⟩

theorem observeCells_keeps {columns : List (String × ColumnType)} {cells : List String}
    (spans : Spans columns cells) (others : List String) :
    Spans (observeCells columns others) cells := by
  induction columns generalizing cells others with
  | nil => simp [observeCells,Spans]
  | cons column columns ih =>
    cases others with
    | nil => exact spans
    | cons other others =>
      cases cells with
      | nil => simp [Spans]
      | cons cell cells =>
        obtain ⟨own,rest⟩ := spans_cons.mp spans
        exact spans_cons.mpr ⟨widenBy_keeps own other,ih rest others⟩

theorem observeAll_keeps {schema : TableSchema} {record : List String}
    (spans : Spans schema.columns record) (sample : List (List String)) :
    Spans (schema.observeAll sample).columns record := by
  induction sample generalizing schema with
  | nil => exact spans
  | cons other sample ih => exact ih (observeCells_keeps spans other)

theorem observeAll_spans {sample : List (List String)} (member : record ∈ sample)
    (schema : TableSchema) : Spans (schema.observeAll sample).columns record := by
  induction sample generalizing schema with
  | nil => cases member
  | cons first sample ih =>
    rcases List.mem_cons.mp member with rfl | later
    · exact observeAll_keeps (observeCells_spans schema.columns record) sample
    · exact ih later (schema.observe first)

theorem valuesOf_spanned {columns : List (String × ColumnType)} {cells : List String}
    (spans : Spans columns cells) (line : Nat) : ∃ row, valuesOf line columns cells = .ok row ∧
      row.length = min columns.length cells.length := by
  induction columns generalizing cells with
  | nil => exact ⟨[],rfl,by simp⟩
  | cons column columns ih =>
    cases cells with
    | nil => exact ⟨[],rfl,by simp⟩
    | cons cell cells =>
      obtain ⟨own,rest⟩ := spans_cons.mp spans
      obtain ⟨v,converted⟩ := own.converts
      obtain ⟨row,further,counted⟩ := ih rest
      refine ⟨v :: row,by simp [valuesOf,converted,further],?_⟩
      simp only [List.length_cons,counted]
      omega

theorem values_sampled {sample : List (List String)} (member : record ∈ sample) (schema : TableSchema)
    (line : Nat) : ∃ row, (schema.observeAll sample).values record line = .ok row ∧
      row.length = min schema.columns.length record.length := by
  rw [← columns_length (schema.observeAll_names sample)]
  exact valuesOf_spanned (observeAll_spans member schema) line

end TableSchema

-- The types that are handed over are those of the sample.
theorem feed_converts {options : Options} {document : Csv.Document} {handed : Feed}
    (read : feed options document = .ok handed) :
    ∀ r ∈ document.records.take options.sampleSize, Converts handed.schema r := by
  obtain ⟨_,header,_,_,_,_,_,rfl⟩ := feed_ok read
  intro r member
  obtain ⟨row,converted,_⟩ := header.values_sampled (List.mem_map_of_mem member) r.line
  exact ⟨row,converted⟩

-- A table that is made is filled with the types that were inferred.
theorem Opening.made_for {options : Options} {table : Ident} {schema : TableSchema}
    {replies : List Reply} {asked : List (Wanted × Statement)} {opened : Except Error TableSchema}
    (opening : Opening options table schema replies asked opened)
    (creates : .create ∈ asked.map (Effect.of ∘ asking)) :
    opened = (answer replies 1).map fun _ => schema := by
  cases opening with
  | remade | made => rfl
  | undropped | untold | taken | missed => simp at creates

theorem recordChunks_converts {size : Nat} (positive : 0 < size) {records : List Csv.Record}
    {faulty : Bool} (all : ∀ r ∈ records, Converts schema r) :
    ∀ chunk ∈ recordChunks size records faulty, ∀ r ∈ chunk, Converts schema r := by
  intro chunk member r inside
  obtain ⟨i,at_i⟩ := List.getElem?_of_mem member
  obtain ⟨_,rfl⟩ := (chunk_at positive).mp at_i
  exact all r (List.mem_of_mem_drop (List.mem_of_mem_take inside))

-- Where all records convert, it is the source or the database that ends a load before its time.
theorem Filling.cause {options : Options} (positive : 0 < options.chunkSize) {document : Csv.Document}
    {replies : List Reply} {failure : Stopped} (all : ∀ r ∈ document.records, Converts schema r)
    (filling : Filling options table document replies (.ok schema) ss result)
    (failed : result = .error failure) :
    (∃ fault, document.fault = some fault ∧ failure.cause = .csv fault) ∨
      ∃ i, answer replies i = .error failure.cause := by
  cases filling with
  | filled course =>
    obtain ⟨counts,_,halts,_⟩ := course.halts
    generalize ss.length = n at halts
    cases halts with
    | finished last =>
      cases faulty : document.fault with
      | none =>
        rw [faulty] at failed
        cases failed
      | some fault =>
        rw [faulty] at failed
        cases failed
        exact .inl ⟨fault,rfl,rfl⟩
    | unconverted at_chunk broken =>
      have converts := recordChunks_converts positive all _ (List.mem_of_getElem? at_chunk)
      exact absurd converts (unconverted_of_error broken)
    | refused at_chunk converts refusal =>
      cases failed
      exact .inr ⟨_,refusal⟩

theorem answer_drop (replies : List Reply) (n i : Nat) :
    answer (replies.drop n) i = answer replies (n + i) := by
  rw [answer,answer,List.getElem?_drop]

-- A database that has no room for what is inserted.
def Keyed.refusing : Db Nat :=
  .ofBackend (.start .ready [.affected 0,.affected 0,.failure (.query "full" none)])

-- Every record of a sample has values in the columns whose types were inferred from it. So a load
-- that samples all records of its source and makes its table is ended by the source or by a reply of
-- the database, and not for a cell.
theorem sampled_records_convert :
    (∀ headers header sample, TableSchema.ofHeaders headers = .ok header → ∀ record ∈ sample, ∀ line,
      ∃ row, (header.observeAll sample).values record line = .ok row ∧
        row.length = min headers.length record.length) ∧
    ∀ {ρ : Type} (options : Options) (name : String) (source : Csv.Source) (db : Db ρ),
      source.document.records.length ≤ options.sampleSize →
      .create ∈ (sentBy (load options name source) db).map Effect.of →
      ∃ table handed, Accepted options name source table handed ∧
        (∀ r ∈ source.document.records, Converts handed.schema r) ∧
        ∀ failure, (load options name source db).1 = .error failure →
          (∃ fault, source.document.fault = some fault ∧ failure.cause = .csv fault) ∨
            ∃ i, answer db.backend.replies i = .error failure.cause := by
  constructor
  · intro headers header sample read record member line
    rw [← (TableSchema.ofHeaders_columns read).1]
    exact header.values_sampled member line
  · intro ρ options name source db short creates
    have reached : sentBy (load options name source) db ≠ [] := by
      intro nothing
      rw [nothing] at creates
      cases creates
    obtain ⟨table,handed,accepted,sampled,lent⟩ := accepted_of_reached reached
    have all := feed_converts accepted.fed
    rw [List.take_of_length_le short] at all
    refine ⟨table,handed,accepted,all,fun failure failed => ?_⟩
    obtain ⟨asked,opened,ss,opening,order,filling⟩ := accepted.exists_filling sampled lent
    have positive := (Options.validate_ok accepted.valid).1
    rw [(filling.sends_in_order positive opening order).map_effect,List.mem_append] at creates
    have made := opening.made_for (creates.resolve_right (by simp [List.mem_replicate]))
    cases granted : answer db.backend.replies 1 with
    | error e =>
      rw [granted] at made
      have stopped := (filling.sends_in_order positive opening order).stopped e made
      cases failed.symm.trans stopped
      exact .inr ⟨1,granted⟩
    | ok n =>
      rw [granted] at made
      subst made
      rcases filling.cause positive all failed with faulty | ⟨i,refusal⟩
      · exact .inl faulty
      · rw [answer_drop] at refusal
        exact .inr ⟨_,refusal⟩

-- A whole number in a column that another cell makes wider, and a load that is ended by a reply.
theorem sampled_records_convert_refused :
    (∃ row, (TableSchema.observeAll ⟨[("a",.unknown)]⟩ [["7"],[" "],["1.5"]]).values ["7"] 2 = .ok row ∧
      row.length = 1) ∧
    (load (Keyed.options true true false) "t" Keyed.filled Keyed.refusing).1 = .error ⟨0,.query "full" none⟩ ∧
    ∃ i, answer Keyed.refusing.backend.replies i = .error (.query "full" none) := by
  have accepted := Keyed.filled_accepted true true false
  have failed : (load (Keyed.options true true false) "t" Keyed.filled Keyed.refusing).1 =
      .error ⟨0,.query "full" none⟩ := by
    rw [accepted.load_run]
    rfl
  have creates : .create ∈ (sentBy (load (Keyed.options true true false) "t" Keyed.filled)
      Keyed.refusing).map Effect.of := by
    rw [sentBy,accepted.load_run]
    decide +kernel
  have short : Keyed.filled.document.records.length ≤ (Keyed.options true true false).sampleSize := by
    rw [Keyed.filled_document]
    decide
  obtain ⟨_,_,_,_,ends⟩ := sampled_records_convert.2 _ "t" Keyed.filled Keyed.refusing short creates
  refine ⟨sampled_records_convert.1 ["a"] _ _ rfl ["7"] (by simp) 2,failed,?_⟩
  rcases ends _ failed with ⟨fault,broken,_⟩ | refusal
  · rw [Keyed.filled_document] at broken
    cases broken
  · exact refusal

end DataAccess.Load
