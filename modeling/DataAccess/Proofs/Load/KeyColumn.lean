import DataAccess.Proofs.Load.Naming

-- The key column of a table that is made. Its name comes from the table's, with the capitals that
-- the table was given; the names of the other columns have none. They are compared as they are
-- written, and not as a server does that folds them.
namespace DataAccess.Load
open Text (folded)

theorem folded_headerName (raw : String) : folded (headerName raw) = headerName raw :=
  Text.folded_lowercase _

-- A statement that makes a key column and then these. The server takes them for different columns just
-- when none of them is what it makes of the key.
structure Makes (sql : List Char) (key : String) (names : List String) : Prop where
  columns : (columnsMade sql).map Prod.fst = key :: names
  named : ∀ name ∈ (columnsMade sql).map Prod.fst, IsName name
  distinct : (((columnsMade sql).map Prod.fst).map folded).Nodup ↔ folded key ∉ names

namespace TableSchema

theorem identityColumn_key {schema : TableSchema} {table : Ident} {key : String}
    (made : schema.identityColumn table = .ok key) :
    key = keyName table ∧ IsName (keyName table) ∧ keyName table ∉ schema.columnNames := by
  have sound := identityColumn_ok.mp ⟨key,made⟩
  unfold identityColumn at made
  split at made
  · cases made
  · split at made
    · cases made
    · cases made
      exact ⟨rfl,sound⟩

theorem createTable_makes {headers : List String} {header : TableSchema}
    (read : ofHeaders headers = .ok header) (sample : List (List String)) {table : Ident}
    (own : IsName (keyName table)) :
    Makes ((header.observeAll sample).createTable table true).sql.toList (keyName table)
      (headers.map headerName) := by
  obtain ⟨some,named,distinct,_⟩ := ofHeaders_ok.mp read
  have names : (header.observeAll sample).columnNames = headers.map headerName :=
    (header.observeAll_names sample).trans (ofHeaders_names read)
  have each : ∀ name ∈ headers.map headerName, IsName name := by simpa using named
  have filled : (header.observeAll sample).columns ≠ [] := by
    intro empty
    rw [columnNames,empty] at names
    exact some (List.map_eq_nil_iff.mp names.symm)
  have written : (columnsMade ((header.observeAll sample).createTable table true).sql.toList).map Prod.fst =
      keyName table :: headers.map headerName := by
    rw [columnsMade_createTable filled (by rwa [names]),← names,columnNames]
    simp
  have same : (headers.map headerName).map folded = headers.map headerName := by
    simp [folded_headerName]
  refine ⟨written,?_,?_⟩
  · rw [written]
    exact List.forall_mem_cons.mpr ⟨own,each⟩
  · rw [written,List.map_cons,same,List.nodup_cons]
    exact and_iff_left distinct

end TableSchema

-- The columns of a table that is made with a key are what the header and the table name, and they are
-- different columns for the server unless it takes the key for one of the header's. A load that gets as
-- far as the database has a key that is written otherwise than these, and makes no other columns.
theorem created_columns_distinct_iff (table : Ident) :
    (∀ headers header sample key, TableSchema.ofHeaders headers = .ok header →
      (header.observeAll sample).identityColumn table = .ok key →
        Makes ((header.observeAll sample).createTable table true).sql.toList key
          (headers.map headerName)) ∧
    ∀ {ρ : Type} (options : Options) (name : String) (source : Csv.Source) (db : Db ρ),
      Ident.parse name = .ok table → options.autoIncrement = true →
      sentBy (load options name source) db ≠ [] →
      ∃ headers, source.document.header = .ok headers ∧
        TableSchema.keyName table ∉ headers.map headerName ∧
        ∀ s ∈ sentBy (load options name source) db, Effect.of s = .create →
          Makes s.2.1.toList (TableSchema.keyName table) (headers.map headerName) := by
  constructor
  · intro headers header sample key read made
    obtain ⟨rfl,own,_⟩ := TableSchema.identityColumn_key made
    exact TableSchema.createTable_makes read sample own
  · intro ρ options name source db named keyed reached
    obtain ⟨same,handed,accepted,sampled,lent⟩ := accepted_of_reached reached
    cases named.symm.trans accepted.named
    obtain ⟨key,made⟩ := accepted.keyed sampled keyed
    obtain ⟨headers,header,own,_,read,_,_,rfl⟩ := feed_ok accepted.fed
    obtain ⟨_,valid,apart⟩ := TableSchema.identityColumn_key made
    obtain ⟨asked,opened,ss,sending⟩ := accepted.exists_sending sampled lent
    rw [feedOf,TableSchema.observeAll_names,TableSchema.ofHeaders_names read] at apart
    refine ⟨headers,own,apart,fun s member creates => ?_⟩
    rcases sending.asked_or_inserted member with ⟨a,inside,rfl⟩ | ⟨i,t,filled,_,inserts,rfl⟩
    · rw [sending.opening.eq_of_create a inside creates,keyed]
      exact TableSchema.createTable_makes read _ valid
    · rw [Effect.of_inserts inserts] at creates
      cases creates

theorem created_columns_distinct_keyed :
    Makes ((TableSchema.observeAll ⟨[("a",.unknown)]⟩ [["1"]]).createTable Sample.table true).sql.toList
      "t_id" ["a"] ∧
    ∀ s ∈ sentBy (load (Keyed.options true true true) "t" Keyed.filled) Keyed.start,
      Effect.of s = .create → Makes s.2.1.toList "t_id" ["a"] := by
  have read : TableSchema.ofHeaders ["a"] = .ok ⟨[("a",.unknown)]⟩ := rfl
  have name : ["a"].map headerName = ["a"] := rfl
  have key : TableSchema.keyName Sample.table = "t_id" := rfl
  have written : Keyed.filled.document.records ≠ [] := by simp [Keyed.filled_document]
  have reached : sentBy (load (Keyed.options true true true) "t" Keyed.filled) Keyed.start ≠ [] :=
    reaches_iff.mpr ⟨(Keyed.filled_accepted true true true).not_refused,written,rfl⟩
  obtain ⟨headers,own,_,makes⟩ :=
    (created_columns_distinct_iff Sample.table).2 _ "t" _ _ rfl rfl reached
  rw [Keyed.filled_document] at own
  cases own
  rw [name,key] at makes
  refine ⟨?_,makes⟩
  rw [← name]
  exact (created_columns_distinct_iff Sample.table).1 _ _ [["1"]] "t_id" read rfl

-- A table with a capital, and a header with the name that a server makes of its key.
def Keyed.capital : Ident := ⟨["T"],by decide,by decide⟩

theorem Keyed.clashing_accepted :
    Accepted (options true true true) "T" clashing capital
      ⟨⟨[("t_id",.integer)]⟩,1,[[⟨["1"],2⟩]],none⟩ := by
  have whole : chunks 1000 [(⟨["1"],2⟩ : Csv.Record)] = [[⟨["1"],2⟩]] := by simp [chunks]
  have read : clashing.document = ⟨.ok ["t_id"],[⟨["1"],2⟩],none⟩ := by rfl
  refine ⟨rfl,rfl,?_,fun _ _ => ⟨"T_id",rfl⟩⟩
  rw [read]
  unfold Load.feed options
  dsimp only
  exact congrArg (fun chunks => Except.ok (Feed.mk ⟨[("t_id",.integer)]⟩ 1 chunks none)) whole

-- The key is not taken for the header's column, and the table is dropped and made with both.
theorem not_always_distinct : ∃ table header, Ident.parse "T" = .ok table ∧
    TableSchema.ofHeaders ["t_id"] = .ok header ∧ header.identityColumn table = .ok "T_id" ∧
    ¬(((columnsMade (header.createTable table true).sql.toList).map Prod.fst).map folded).Nodup ∧
    (sentBy (load (Keyed.options true true true) "T" Keyed.clashing) Keyed.start).map Effect.of =
      [.drop,.create,.insert] := by
  have effects : (sentBy (load (Keyed.options true true true) "T" Keyed.clashing) Keyed.start).map
      Effect.of = [.drop,.create,.insert] := by
    rw [sentBy,Keyed.clashing_accepted.load_run]
    decide +kernel
  have read : TableSchema.ofHeaders ["t_id"] = .ok ⟨[("t_id",.unknown)]⟩ := rfl
  have own : IsName (TableSchema.keyName Keyed.capital) := by decide
  have makes := TableSchema.createTable_makes read [] own
  refine ⟨Keyed.capital,⟨[("t_id",.unknown)]⟩,rfl,rfl,rfl,?_,effects⟩
  intro distinct
  have apart := makes.distinct.mp distinct
  exact apart (by decide)

end DataAccess.Load
