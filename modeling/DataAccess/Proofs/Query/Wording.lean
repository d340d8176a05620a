import DataAccess.Proofs.Cache.Settled
import DataAccess.Proofs.Query.Layout

-- The words of a SELECT. The text that is made is these words with one space between each two, so
-- that its canonical form is the text itself.
namespace DataAccess
open DataAccess.Part
open Cache (spaced spaced_cons spaced_append IsWord tidy tidy_cons tidy_of_plain)
open Lexical (isQuote)
open Statement (placeholder placeholder_toList)
open Text (isBlank)

-- Texts in a row, with a comma after each but the last, where the row closes.
def listed (close : List Char) : List (List Char) → List (List Char)
  | [] => [close]
  | [w] => [w ++ close]
  | w :: v :: ws => (w ++ [',']) :: listed close (v :: ws)

-- The placeholders of so many values, after those that are bound.
def numbered (bound n : Nat) : List (List Char) :=
  (List.range' (bound + 1) n).map fun k => (placeholder k).toList

def parenthesized : List (List Char) → List (List Char)
  | [] => []
  | w :: ws => ('(' :: w) :: ws

def Operator.words : Operator → List (List Char)
  | .notIn => ["NOT".toList,"IN".toList]
  | op => [op.sql.toList]

def Operand.words (bound : Nat) : Operand → List (List Char)
  | .single _ => [(placeholder (bound + 1)).toList]
  | .list vs => parenthesized (listed [')'] (numbered bound vs.length))

def Clause.words (bound : Nat) (c : Clause) : List (List Char) :=
  c.column.sql.toList :: (c.op.words ++ c.operand.words bound)

def optional (keyword : String) (words : α → List (List Char)) : Option α → List (List Char)
  | none => []
  | some a => keyword.toList :: words a

def conditionWords (lead : String) (bound : Nat) : List Clause → List (List Char)
  | [] => []
  | c :: cs =>
    lead.toList :: (c.words bound ++ conditionWords "AND" (bound + c.values.length) cs)

section Rows

theorem listed_spaced (close : List Char) (ws : List (List Char)) :
    spaced (listed close ws) = ' ' :: (List.intercalate [',',' '] ws ++ close) := by
  induction ws with
  | nil => simp [listed,spaced]
  | cons w ws ih =>
    cases ws with
    | nil => simp [listed,spaced]
    | cons v ws =>
      rw [listed,spaced_cons,ih,List.intercalate_cons_cons]
      simp

theorem write_joined {parts : α → List Part} (x y : α) (xs : List α) (bound : Nat) :
    write bound (joined ", " parts (x :: y :: xs)) = write bound (parts x) ++ [',',' '] ++
      write (bound + (values (parts x)).length) (joined ", " parts (y :: xs)) := by
  simp [joined,write_append,write]

theorem write_idents (bound : Nat) (is : List Ident) : write bound (joined ", " Query.identParts is) =
    List.intercalate [',',' '] (is.map fun i => i.sql.toList) := by
  rw [write_plain ", " (fun _ => rfl)]
  simp [Query.identParts,write]

theorem write_values (bound : Nat) (vs : List Value) :
    write bound (joined ", " (fun v => [.value v]) vs) =
      List.intercalate [',',' '] (numbered bound vs.length) := by
  induction vs generalizing bound with
  | nil => rfl
  | cons v vs ih =>
    cases vs with
    | nil => simp [joined,write,numbered]
    | cons w vs =>
      have one : (values [.value v]).length = 1 := rfl
      rw [write_joined,one,ih,numbered,numbered]
      simp [List.range'_succ,write]

theorem parenthesized_spaced {ws : List (List Char)} (same : spaced ws = ' ' :: rest) :
    spaced (parenthesized ws) = ' ' :: '(' :: rest := by
  cases ws with
  | nil => cases same
  | cons w ws =>
    rw [spaced_cons] at same
    rw [parenthesized,spaced_cons,List.cons_append,(List.cons.inj same).2]

end Rows

theorem Operator.words_spaced (op : Operator) : spaced op.words = ' ' :: op.sql.toList := by
  cases op <;> rfl

theorem Clause.words_spaced (bound : Nat) (c : Clause) :
    spaced (c.words bound) = ' ' :: write bound c.parts := by
  rw [Clause.words,spaced_cons,spaced_append,c.op.words_spaced,parts]
  cases c.operand with
  | single v => simp [Operand.words,spaced,write]
  | list vs =>
    have row := parenthesized_spaced (listed_spaced [')'] (numbered bound vs.length))
    rw [Operand.words,row,← write_values]
    simp [write,write_append]

theorem conditionWords_more (bound : Nat) (cs : List Clause) :
    spaced (conditionWords "AND" bound cs) =
      write bound (cs.flatMap fun c => .text " AND " :: c.parts) := by
  induction cs generalizing bound with
  | nil => rfl
  | cons c cs ih =>
    rw [conditionWords,spaced_cons,spaced_append,c.words_spaced,ih,List.flatMap_cons]
    simp [write,write_append,c.values_parts]

theorem conditionWords_spaced (bound : Nat) (cs : List Clause) :
    spaced (conditionWords "WHERE" bound cs) = write bound (whereParts cs) := by
  cases cs with
  | nil => rfl
  | cons c cs =>
    rw [conditionWords,spaced_cons,spaced_append,c.words_spaced,conditionWords_more,whereParts]
    simp [joined,write,write_append,c.values_parts]

namespace Query.Select

def orderWords : Option (Ident × Order) → List (List Char) :=
  optional "ORDER" fun (column,order) => ["BY".toList,column.sql.toList,order.sql.toList]

def countWords (keyword : String) : Option UInt64 → List (List Char) :=
  optional keyword fun n => [(toString n.toNat).toList]

def tailWords (q : Select) : List (List Char) :=
  orderWords q.order ++ (countWords "LIMIT" q.limit ++ countWords "OFFSET" q.offset)

-- The words after the first one, which is SELECT.
def words (q : Select) (columns : List Ident) (table : Ident) : List (List Char) :=
  listed [] (columns.map fun i => i.sql.toList) ++ "FROM".toList :: table.sql.toList ::
    (conditionWords "WHERE" 0 q.conditions ++ q.tailWords)

theorem tailWords_spaced (bound : Nat) (q : Select) : spaced q.tailWords = write bound q.tail := by
  unfold tailWords tail
  cases q.order <;> cases q.limit <;> cases q.offset <;>
    simp [orderWords,countWords,optional,orderParts,countParts,spaced,write]

theorem words_sql (q : Select) (columns : List Ident) (table : Ident) :
    (Statement.ofParts (head columns table ++ whereParts q.conditions ++ q.tail)).sql.toList =
      "SELECT".toList ++ spaced (q.words columns table) := by
  rw [Statement.ofParts_sql,write_append,write_append,values_head,List.length_nil,Nat.add_zero,
    ← conditionWords_spaced,← tailWords_spaced,words,spaced_append,spaced_cons,spaced_cons,
    spaced_append,listed_spaced,← write_idents 0]
  simp [head,write,write_append]

end Query.Select

section Marks

variable {w close : List Char} {ws : List (List Char)}

theorem continuesName_plain {c : Char} (continues : continuesName c = true) :
    isBlank c = false ∧ isQuote c = false ∧ c ≠ '$' := by
  refine ⟨continuesName_solid continues,?_,?_⟩
  · have apart : c ≠ '\'' ∧ c ≠ '"' := by
      constructor <;> rintro rfl <;> exact absurd continues (by decide)
    simpa [isQuote] using apart
  · rintro rfl
    exact absurd continues (by decide)

theorem Ident.sql_word (i : Ident) : IsWord i.sql.toList := by
  refine ⟨fun empty => i.sql_some (String.toList_eq_nil_iff.mp empty),tidy_of_plain fun c member => ?_⟩
  rcases i.sql_characters c member with rfl | continues
  · decide
  · exact continuesName_plain continues

theorem digits_word (n : Nat) : IsWord (Nat.toDigits 10 n) := by
  refine ⟨Nat.toDigits_ne_nil,tidy_of_plain fun c member => continuesName_plain ?_⟩
  have digit := Nat.isDigit_of_mem_toDigits (b := 10) (by decide) (by decide) member
  simp [continuesName,Char.isAlphanum,digit]

theorem digits_injective {n m : Nat} (same : Nat.toDigits 10 n = Nat.toDigits 10 m) : n = m := by
  have read := congrArg (Nat.ofDigitChars 10 · 0) same
  simpa [Nat.ofDigitChars_toDigits] using read

theorem placeholder_word (n : Nat) : IsWord (placeholder n).toList := by
  rw [placeholder_toList]
  refine ⟨List.cons_ne_nil _ _,tidy_cons.mpr ⟨by decide,by decide,fun _ => ?_,(digits_word n).tidy⟩⟩
  obtain ⟨d,rest,split⟩ := List.exists_cons_of_ne_nil (digits_word n).some
  rw [split]
  exact Nat.isDigit_of_mem_toDigits (b := 10) (by decide) (by decide) (split ▸ List.mem_cons_self)

theorem listed_words (closing : tidy close) (some : ws ≠ [] ∨ close ≠ []) (words : ∀ w ∈ ws, IsWord w) :
    ∀ w ∈ listed close ws, IsWord w := by
  induction ws with
  | nil => simpa [listed] using ⟨some.resolve_left (by simp),closing⟩
  | cons w ws ih =>
    have word := words w (by simp)
    cases ws with
    | nil => simpa [listed] using word.append closing
    | cons v ws =>
      rw [listed,List.forall_mem_cons]
      exact ⟨word.append (by decide),ih (.inl (by simp)) fun u member => words u (by simp [member])⟩

theorem parenthesized_words (words : ∀ w ∈ ws, IsWord w) : ∀ w ∈ parenthesized ws, IsWord w := by
  cases ws with
  | nil => simp [parenthesized]
  | cons w ws =>
    rw [List.forall_mem_cons] at words
    rw [parenthesized,List.forall_mem_cons]
    exact ⟨⟨by simp,tidy_cons.mpr ⟨by decide,by decide,by simp,words.1.tidy⟩⟩,words.2⟩

theorem numbered_words (bound n : Nat) : ∀ w ∈ numbered bound n, IsWord w := by
  simp only [numbered,List.mem_map]
  rintro w ⟨k,_,rfl⟩
  exact placeholder_word k

end Marks

theorem Operator.words_words (op : Operator) : ∀ w ∈ op.words, IsWord w := by
  cases op <;> decide

theorem Clause.words_words (bound : Nat) (c : Clause) : ∀ w ∈ c.words bound, IsWord w := by
  have operand : ∀ w ∈ c.operand.words bound, IsWord w := by
    cases c.operand with
    | single v => simpa [Operand.words] using placeholder_word (bound + 1)
    | list vs =>
      exact parenthesized_words (listed_words (by decide) (.inr (by simp)) (numbered_words bound vs.length))
  rw [Clause.words,List.forall_mem_cons,List.forall_mem_append]
  exact ⟨c.column.sql_word,c.op.words_words,operand⟩

theorem conditionWords_words {lead : String} (leads : IsWord lead.toList) (bound : Nat)
    (cs : List Clause) : ∀ w ∈ conditionWords lead bound cs, IsWord w := by
  induction cs generalizing lead bound with
  | nil => simp [conditionWords]
  | cons c cs ih =>
    rw [conditionWords,List.forall_mem_cons,List.forall_mem_append]
    exact ⟨leads,c.words_words bound,ih (by decide) _⟩

namespace Query.Select

theorem orderWords_words (order : Option (Ident × Order)) : ∀ w ∈ orderWords order, IsWord w := by
  cases order with
  | none => simp [orderWords,optional]
  | some key =>
    have direction : IsWord key.2.sql.toList := by cases key.2 <;> decide
    simp only [orderWords,optional,List.forall_mem_cons]
    exact ⟨by decide,by decide,key.1.sql_word,direction,by simp⟩

theorem countWords_words {keyword : String} (word : IsWord keyword.toList) (n : Option UInt64) :
    ∀ w ∈ countWords keyword n, IsWord w := by
  cases n with
  | none => simp [countWords,optional]
  | some n => simpa [countWords,optional] using ⟨word,digits_word n.toNat⟩

theorem words_words {q : Select} {columns : List Ident} (some : columns ≠ []) (table : Ident) :
    ∀ w ∈ q.words columns table, IsWord w := by
  have listed : ∀ w ∈ listed [] (columns.map fun i => i.sql.toList), IsWord w :=
    listed_words rfl (.inl (by simpa using some)) (by simp [Ident.sql_word])
  rw [words,List.forall_mem_append,List.forall_mem_cons,List.forall_mem_cons,List.forall_mem_append,
    tailWords,List.forall_mem_append,List.forall_mem_append]
  exact ⟨listed,by decide,table.sql_word,conditionWords_words (by decide) 0 q.conditions,
    orderWords_words q.order,countWords_words (by decide) q.limit,countWords_words (by decide) q.offset⟩

end Query.Select

end DataAccess
