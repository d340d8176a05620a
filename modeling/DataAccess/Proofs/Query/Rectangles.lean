import DataAccess.Proofs.Query.Placeholders
import DataAccess.Proofs.Text.Pieces

-- The shape of INSERT statements, read back from their text: what stands between brackets is the
-- column list and then one tuple for each row. A row is counted against the columns of its time, so
-- the tuples fit the column list exactly when no row was added under columns of another number.
namespace DataAccess

namespace Statement

-- What stands between an opening bracket and the closing one after it, for each in order.
def bracketed : List Char → List (List Char)
  | [] => []
  | c :: rest => if c = '(' then rest.takeWhile (· != ')') :: bracketed rest else bracketed rest

theorem bracketed_of_plain {s : List Char} (plain : '(' ∉ s) (rest : List Char) :
    bracketed (s ++ rest) = bracketed rest := by
  induction s with
  | nil => rfl
  | cons c s ih =>
    rw [List.mem_cons,not_or] at plain
    rw [List.cons_append,bracketed,if_neg fun opens => plain.1 opens.symm]
    exact ih plain.2

theorem bracketed_of_group {inner : List Char} (opened : '(' ∉ inner) (closed : ')' ∉ inner)
    (rest : List Char) : bracketed ('(' :: (inner ++ ')' :: rest)) = inner :: bracketed rest := by
  have kept : ∀ c ∈ inner, (c != ')') = true := by
    intro c member
    refine bne_iff_ne.mpr ?_
    rintro rfl
    exact closed member
  have ended : ((')' :: rest).takeWhile (· != ')')) = [] := rfl
  rw [bracketed,if_pos rfl,List.takeWhile_append_of_pos kept,ended,List.append_nil,
    bracketed_of_plain opened,bracketed,if_neg (by decide)]

end Statement

namespace Part
open Statement

-- A character that is neither in a text nor of a placeholder is not written.
theorem not_written {c : Char} (sign : c ≠ '$') (digit : c.isDigit = false) {parts : List Part}
    (texts : ∀ s, text s ∈ parts → c ∉ s.toList) (bound : Nat) : c ∉ write bound parts := by
  induction parts generalizing bound with
  | nil => simp [write]
  | cons part rest ih =>
    have further := fun bound => ih (fun s member => texts s (by simp [member])) bound
    cases part with
    | text s =>
      rw [write,List.mem_append,not_or]
      exact ⟨texts s (by simp),further bound⟩
    | value v =>
      rw [write,placeholder_toList,List.mem_append,List.mem_cons,not_or,not_or]
      refine ⟨⟨sign,fun member => ?_⟩,further (bound + 1)⟩
      rw [Nat.isDigit_of_mem_toDigits (by decide) (by decide) member] at digit
      cases digit

end Part

namespace Query.Insert
open DataAccess.Part Statement

def columnNumber (listed : List Char) : Nat := (listed.splitOn ',').length

-- The text between the brackets of the column list.
def listing (columns : List Ident) : List Char := write 0 (joined ", " identParts columns)

theorem listing_plain (columns : List Ident) {c : Char} (comma : c ≠ ',') (blank : c ≠ ' ')
    (dot : c ≠ '.') (sign : c ≠ '$') (word : continuesName c = false) : c ∉ listing columns := by
  have digit : c.isDigit = false := by
    simp only [continuesName,Char.isAlphanum,Bool.or_eq_false_iff] at word
    exact word.2.2
  refine not_written sign digit (fun s member => ?_) 0
  cases columns with
  | nil => simp [joined] at member
  | cons i is =>
    simp only [joined,identParts,List.mem_append,List.mem_flatMap,List.mem_cons,Part.text.injEq,
      List.not_mem_nil,or_false] at member
    rcases member with rfl | ⟨j,_,rfl | rfl⟩
    · exact i.sql_without dot word
    · simp [comma,blank]
    · exact j.sql_without dot word

theorem listing_number {columns : List Ident} (listed : columns ≠ []) :
    columnNumber (listing columns) = columns.length := by
  have own : ∀ i : Ident, i.sql.toList.countP (· == ',') = 0 := by
    intro i
    refine List.countP_eq_zero.mpr fun c member => ?_
    rintro found
    cases beq_iff_eq.mp found
    exact i.sql_without (by decide) (by decide) member
  have others : ∀ (is : List Ident) (bound : Nat), (write bound
      (is.flatMap fun i => .text ", " :: identParts i)).countP (· == ',') = is.length := by
    intro is
    induction is with
    | nil => intro bound; rfl
    | cons i is ih =>
      intro bound
      simp only [List.flatMap_cons,identParts,List.cons_append,List.nil_append,write,
        List.countP_append,own,List.length_cons] at ih ⊢
      rw [ih]
      simp [Nat.add_comm]
  cases columns with
  | nil => exact absurd rfl listed
  | cons i is =>
    rw [columnNumber,Text.length_splitOn,List.count,listing,joined,write_append,List.countP_append,others]
    simp [identParts,write,own]

-- The text between the brackets of a row that stands after so many values.
def tuple (bound : Nat) (row : Row) : List Char := write bound (joined ", " (fun v => [.value v]) row)

theorem tuple_plain (bound : Nat) (row : Row) {c : Char} (comma : c ≠ ',') (blank : c ≠ ' ')
    (sign : c ≠ '$') (digit : c.isDigit = false) : c ∉ tuple bound row := by
  refine not_written sign digit (fun s member => ?_) bound
  cases row with
  | nil => simp [joined] at member
  | cons v vs =>
    simp only [joined,List.mem_append,List.mem_flatMap,List.mem_cons,Part.text.injEq,reduceCtorEq,
      List.not_mem_nil,or_false,false_or] at member
    obtain ⟨_,_,rfl⟩ := member
    simp [comma,blank]

theorem tuple_placeholders (bound : Nat) (row : Row) :
    (placeholders (tuple bound row)).length = row.length := by
  have listed : Legible false (joined ", " (fun v => [.value v]) row) :=
    legible_joined (by decide) fun v _ => trivial
  have bound : Part.values (joined ", " (fun v => [.value v]) row) = row := by
    simp [values_joined,Part.values]
  rw [tuple,placeholders_write listed,bound,List.length_map,List.length_range']

theorem write_rowParts (bound : Nat) (row : Row) :
    write bound (rowParts row) = '(' :: (tuple bound row ++ [')']) := by
  rw [rowParts,List.cons_append,write,write_append]
  rfl

theorem bracketed_row (bound : Nat) (row : Row) (rest : List Char) :
    bracketed (write bound (rowParts row) ++ rest) = tuple bound row :: bracketed rest := by
  have opened : '(' ∉ tuple bound row :=
    tuple_plain bound row (by decide) (by decide) (by decide) (by decide)
  have closed : ')' ∉ tuple bound row :=
    tuple_plain bound row (by decide) (by decide) (by decide) (by decide)
  rw [write_rowParts,List.cons_append,List.append_assoc]
  exact bracketed_of_group opened closed rest

theorem bracketed_rows (bound : Nat) (rows : List Row) :
    (bracketed (write bound (joined ", " rowParts rows))).map (fun t => (placeholders t).length) =
      rows.map List.length := by
  have others : ∀ (rows : List Row) (bound : Nat), (bracketed (write bound
      (rows.flatMap fun row => .text ", " :: rowParts row))).map
        (fun t => (placeholders t).length) = rows.map List.length := by
    intro rows
    induction rows with
    | nil => intro bound; rfl
    | cons row rows ih =>
      intro bound
      rw [List.flatMap_cons,List.cons_append,write,bracketed_of_plain (by decide),write_append,
        bracketed_row,List.map_cons,ih,tuple_placeholders,List.map_cons]
  cases rows with
  | nil => rfl
  | cons row rows =>
    rw [joined,write_append,bracketed_row,List.map_cons,others,tuple_placeholders,List.map_cons]

-- The brackets of a built statement: the column list, then each row.
theorem build_bracketed {q : Insert} (built : q.build = .ok s) : ∃ listed tuples,
    bracketed s.sql.toList = listed :: tuples ∧ columnNumber listed = q.columns.length ∧
      tuples.map (fun t => (placeholders t).length) = q.rows.toList.map List.length := by
  obtain ⟨table,_,_,listed,_,_,rfl⟩ := build_ok.mp built
  have named : '(' ∉ table.sql.toList := table.sql_without (by decide) (by decide)
  have opened : '(' ∉ listing q.columns :=
    listing_plain q.columns (by decide) (by decide) (by decide) (by decide) (by decide)
  have closed : ')' ∉ listing q.columns :=
    listing_plain q.columns (by decide) (by decide) (by decide) (by decide) (by decide)
  have unbound : Part.values (joined ", " identParts q.columns) = [] := values_identParts q.columns
  refine ⟨listing q.columns,_,?_,listing_number listed,bracketed_rows 0 q.rows.toList⟩
  have text : (ofParts (parts table q.columns q.rows.toList)).sql.toList =
      "INSERT INTO ".toList ++ (table.sql.toList ++ (" ".toList ++ '(' :: (listing q.columns ++
        ')' :: (" VALUES ".toList ++ write 0 (joined ", " rowParts q.rows.toList))))) := by
    rw [ofParts_sql,parts,List.append_assoc]
    simp only [List.cons_append,List.nil_append,write,write_append,unbound,List.length_nil,
      Nat.add_zero,listing]
    rfl
  rw [text,bracketed_of_plain (by decide),bracketed_of_plain named,bracketed_of_plain (by decide),
    bracketed_of_group opened closed,bracketed_of_plain (by decide)]

theorem values_columns (q : Insert) (row : Row) : (q.values row).columns = q.columns := by
  unfold values
  split <;> rfl

-- The rows of an accepted call are as long as the columns were many.
theorem call_fits {q : Insert} {c : Call} (accepted : (q.call c).rejected = none) :
    ∀ row ∈ c.rows, row.length = q.columns.length := by
  have one : ∀ (q : Insert) (row : Row), (q.values row).rejected = none →
      row.length = q.columns.length := by
    intro q row accepted
    unfold values at accepted
    split at accepted
    · exact absurd accepted (reject_rejected _ _)
    · rename_i fits
      exact Decidable.of_not_not fits
  cases c with
  | columnList columns => simp [Call.rows]
  | values row =>
    intro r member
    cases List.mem_singleton.mp member
    exact one q row accepted
  | records rows =>
    change (rows.foldl values q).rejected = none at accepted
    change ∀ row ∈ rows, row.length = q.columns.length
    induction rows generalizing q with
    | nil => simp
    | cons row rows ih =>
      have first := (foldl_gathers_accepted (fun q : Insert => q.rows.toList) (fun row => [row])
        values_accepted (q.values row) rows accepted).1
      have further := ih accepted
      rw [values_columns] at further
      intro r member
      rcases List.mem_cons.mp member with rfl | later
      · exact one q r first
      · exact further r later

theorem rows_fit {table : String} {before after : List Call} {c : Call}
    (accepted : (ofCalls table (before ++ c :: after)).rejected = none) :
    ∀ row ∈ c.rows, row.length = (ofCalls table before).columns.length := by
  refine call_fits ?_
  rw [ofCalls,List.foldl_append,List.foldl_cons] at accepted
  exact (foldl_gathers_accepted (fun q : Insert => q.rows.toList) Call.rows call_accepted _ after
    accepted).1

-- Rows were only added while there were as many columns as in the end.
def Steady (table : String) (calls : List Call) : Prop :=
  ∀ before c after, calls = before ++ c :: after → c.rows ≠ [] →
    (ofCalls table before).columns.length = (ofCalls table calls).columns.length

theorem steady_iff {table : String} {calls : List Call}
    (accepted : (ofCalls table calls).rejected = none) : Steady table calls ↔
      ∀ row ∈ (ofCalls table calls).rows.toList,
        row.length = (ofCalls table calls).columns.length := by
  rw [ofCalls_rows table calls accepted]
  constructor
  · intro steady row member
    obtain ⟨c,called,added⟩ := List.mem_flatMap.mp member
    obtain ⟨before,after,split⟩ := List.append_of_mem called
    rw [split] at accepted
    rw [rows_fit accepted row added]
    exact steady before c after split (List.ne_nil_of_mem added)
  · intro even before c after split added
    obtain ⟨row,rows,first⟩ := List.exists_cons_of_ne_nil added
    have own : row ∈ c.rows := by simp [first]
    have fits := even row (List.mem_flatMap.mpr ⟨c,by simp [split],own⟩)
    rw [split] at accepted
    rw [← rows_fit accepted row own,fits]

-- A statement with a tuple for each row, each with a placeholder for every column of the list, and
-- no more values than a statement may bind.
structure Rectangular (q : Insert) (s : Statement) : Prop where
  square : ∃ listed tuples, bracketed s.sql.toList = listed :: tuples ∧
    columnNumber listed = q.columns.length ∧ tuples.length = q.rows.size ∧
      ∀ t ∈ tuples, (placeholders t).length = columnNumber listed
  filled : s.params.size = q.rows.size * q.columns.length
  within : s.params.size ≤ maxParameters

theorem length_flatten_even {rows : List Row} {n : Nat} (even : ∀ row ∈ rows, row.length = n) :
    rows.flatten.length = rows.length * n := by
  induction rows with
  | nil => simp
  | cons row rows ih =>
    have rest := ih fun r member => even r (by simp [member])
    have first := even row (by simp)
    rw [List.flatten_cons,List.length_append,rest,first,List.length_cons,Nat.add_mul,Nat.one_mul,
      Nat.add_comm]

theorem rectangular_of_even {q : Insert} (built : q.build = .ok s) :
    Rectangular q s ↔ ∀ row ∈ q.rows.toList, row.length = q.columns.length := by
  obtain ⟨listed,tuples,read,number,counts⟩ := build_bracketed built
  constructor
  · intro rectangular row member
    obtain ⟨l,ts,same,_,_,each⟩ := rectangular.square
    cases read.symm.trans same
    have counted : row.length ∈ tuples.map fun t => (placeholders t).length := by
      rw [counts]
      exact List.mem_map_of_mem member
    obtain ⟨t,inside,equal⟩ := List.mem_map.mp counted
    rw [← equal,each t inside,number]
  · intro even
    have filled : s.params.size = q.rows.size * q.columns.length := by
      obtain ⟨table,_,_,_,_,_,rfl⟩ := build_ok.mp built
      have bound := ofParts_params (parts table q.columns q.rows.toList)
      rw [values_parts] at bound
      rw [← Array.length_toList,bound,length_flatten_even even,Array.length_toList]
    refine ⟨⟨listed,tuples,read,number,?_,?_⟩,filled,?_⟩
    · simpa using congrArg List.length counts
    · intro t inside
      have counted : (placeholders t).length ∈ q.rows.toList.map List.length := by
        rw [← counts]
        exact List.mem_map_of_mem (f := fun t => (placeholders t).length) inside
      obtain ⟨row,member,equal⟩ := List.mem_map.mp counted
      rw [← equal,even row member,number]
    · obtain ⟨_,_,_,_,_,within,_⟩ := build_ok.mp built
      rw [filled]
      exact within

-- The limit and the number of values follow from the tuples, so that this is all there is to it.
theorem rectangular_iff {table : String} {calls : List Call}
    (built : (ofCalls table calls).build = .ok s) :
    Rectangular (ofCalls table calls) s ↔ Steady table calls := by
  obtain ⟨_,_,accepted,_⟩ := build_ok.mp built
  rw [steady_iff accepted]
  exact rectangular_of_even built

-- The columns are named again between the rows, as many as before.
theorem rectangular_iff_renamed : ∃ s, (ofCalls "users" [.columnList ["id","name"],
    .values [.int 1,.text "ann"],.columnList ["no","label"],
    .records [[.int 2,.null],[.int 3,.text "bo"]]]).build = .ok s ∧
      Rectangular (ofCalls "users" [.columnList ["id","name"],.values [.int 1,.text "ann"],
        .columnList ["no","label"],.records [[.int 2,.null],[.int 3,.text "bo"]]]) s := by
  have steady : Steady "users" [.columnList ["id","name"],.values [.int 1,.text "ann"],
      .columnList ["no","label"],.records [[.int 2,.null],[.int 3,.text "bo"]]] :=
    (steady_iff rfl).mpr (by decide)
  exact ⟨_,rfl,(rectangular_iff rfl).mpr steady⟩

-- Columns set after a row need not be as many as the row has values.
theorem not_always_rectangular : ¬∀ table calls s, (ofCalls table calls).build = .ok s →
    Rectangular (ofCalls table calls) s := by
  intro always
  obtain ⟨s,built,bound⟩ : ∃ s, (ofCalls "t" [.columnList ["a"],.values [.int 1],
      .columnList ["a","b"]]).build = .ok s ∧ s.params.size = 1 := ⟨_,rfl,rfl⟩
  have filled := (always "t" _ s built).filled
  rw [bound] at filled
  exact absurd filled (by decide)

end Query.Insert

end DataAccess
