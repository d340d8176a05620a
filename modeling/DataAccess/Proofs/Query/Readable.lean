import DataAccess.Proofs.Query.Chains
import DataAccess.Proofs.Query.Wording
import DataAccess.Record.Samples
import DataAccess.Session.Db

-- Reading a SELECT back from its text. Names are not quoted and may spell keywords, so a word alone
-- does not say what it is; its place does. What was asked is read from the front on, each part of
-- the statement leaving the words after it, and with the values bound to it the query is read as a
-- whole. Two queries over one record type are kept under one key exactly if they are one query.
namespace DataAccess
open Cache (canonicalSql canonicalSql_spaced spaced_injective)
open Statement (placeholder placeholder_toList)

-- Reading from the front on. Two rows of texts without commas end where one text has none after it.
theorem listed_cancel {close : List Char} {ws vs rest after : List (List Char)} (plain : ',' ∉ close)
    (some : ws ≠ []) (other : vs ≠ []) (words : ∀ w ∈ ws, ',' ∉ w) (others : ∀ v ∈ vs, ',' ∉ v)
    (same : listed close ws ++ rest = listed close vs ++ after) : ws = vs ∧ rest = after := by
  have ends {w v : List Char} (inside : ',' ∉ w) : w ++ close ≠ v ++ [','] := by
    intro equal
    have comma : ',' ∈ w ++ close := by simp [equal]
    exact (List.mem_append.mp comma).elim inside plain
  induction ws generalizing vs with
  | nil => exact absurd rfl some
  | cons w ws ih =>
    rw [List.forall_mem_cons] at words
    obtain ⟨v,vs,rfl⟩ := List.exists_cons_of_ne_nil other
    rw [List.forall_mem_cons] at others
    cases ws with
    | nil =>
      cases vs with
      | nil =>
        obtain ⟨first,rest⟩ := List.cons.inj same
        exact ⟨congrArg (fun w => [w]) (List.append_cancel_right first),rest⟩
      | cons v' vs => exact absurd (List.cons.inj same).1 (ends words.1)
    | cons w' ws =>
      cases vs with
      | nil => exact absurd (List.cons.inj same).1.symm (ends others.1)
      | cons v' vs =>
        obtain ⟨first,further⟩ := List.cons.inj same
        obtain ⟨equal,rest⟩ := ih (by simp) (by simp) words.2 others.2 further
        exact ⟨congr (congrArg _ (List.append_cancel_right first)) equal,rest⟩

theorem listed_cons (close w : List Char) (ws : List (List Char)) :
    ∃ mark rest, listed close (w :: ws) = (w ++ mark) :: rest := by
  cases ws with
  | nil => exact ⟨close,[],rfl⟩
  | cons v ws => exact ⟨[','],listed close (v :: ws),rfl⟩

theorem numbered_succ (bound n : Nat) :
    numbered bound (n + 1) = (placeholder (bound + 1)).toList :: numbered (bound + 1) n := by
  simp [numbered,List.range'_succ]

theorem numbered_plain (bound n : Nat) : ∀ w ∈ numbered bound n, ',' ∉ w := by
  simp only [numbered,List.mem_map]
  rintro w ⟨k,_,rfl⟩ comma
  rw [placeholder_toList] at comma
  rcases List.mem_cons.mp comma with sign | digit
  · cases sign
  · exact absurd (Nat.isDigit_of_mem_toDigits (by decide) (by decide) digit) (by decide)

theorem numbered_cancel {bound n m : Nat} {rest after : List (List Char)}
    (same : listed [')'] (numbered bound n) ++ rest = listed [')'] (numbered bound m) ++ after) :
    n = m ∧ rest = after := by
  -- A row that closes at once has no dollar sign in front.
  have apart (k : Nat) (rest after : List (List Char)) :
      listed [')'] (numbered bound 0) ++ rest ≠ listed [')'] (numbered bound (k + 1)) ++ after := by
    obtain ⟨mark,further,row⟩ :=
      listed_cons [')'] (placeholder (bound + 1)).toList (numbered (bound + 1) k)
    rw [numbered_succ,row,placeholder_toList]
    intro equal
    cases equal
  have length (k : Nat) : (numbered bound k).length = k := by simp [numbered]
  have filled (k : Nat) : numbered bound (k + 1) ≠ [] := by simp [numbered_succ]
  cases n with
  | zero =>
    cases m with
    | zero => exact ⟨rfl,List.append_cancel_left same⟩
    | succ m => exact absurd same (apart m rest after)
  | succ n =>
    cases m with
    | zero => exact absurd same.symm (apart n after rest)
    | succ m =>
      obtain ⟨rows,rest⟩ := listed_cancel (by decide) (filled n) (filled m) (numbered_plain bound _)
        (numbered_plain bound _) same
      have lengths := congrArg List.length rows
      rw [length,length] at lengths
      exact ⟨lengths,rest⟩

theorem parenthesized_cancel {ws vs rest after : List (List Char)} (some : ws ≠ []) (other : vs ≠ [])
    (same : parenthesized ws ++ rest = parenthesized vs ++ after) : ws ++ rest = vs ++ after := by
  obtain ⟨w,ws,rfl⟩ := List.exists_cons_of_ne_nil some
  obtain ⟨v,vs,rfl⟩ := List.exists_cons_of_ne_nil other
  simpa [parenthesized] using same

theorem listed_some (close : List Char) (ws : List (List Char)) : listed close ws ≠ [] := by
  cases ws with
  | nil => simp [listed]
  | cons w ws =>
    obtain ⟨mark,rest,row⟩ := listed_cons close w ws
    simp [row]

theorem Operator.words_cancel {op other : Operator} {rest after : List (List Char)}
    (same : op.words ++ rest = other.words ++ after) : op = other ∧ rest = after := by
  have first : op.words.head? = other.words.head? := by
    have heads := congrArg List.head? same
    cases op <;> cases other <;> exact heads
  have equal : op = other := by
    cases op <;> cases other <;> first | rfl | exact absurd first (by decide)
  subst equal
  exact ⟨rfl,List.append_cancel_left same⟩

-- The words tell how many values a clause compares with; which ones they are is told by what is
-- bound.
theorem Clause.words_cancel {c d : Clause} {bound : Nat} {rest after : List (List Char)}
    {more others : List Value} (same : c.words bound ++ rest = d.words bound ++ after)
    (bind : c.values ++ more = d.values ++ others) : c = d ∧ rest = after ∧ more = others := by
  obtain ⟨column,op,operand⟩ := c
  obtain ⟨column',op',operand'⟩ := d
  simp only [Clause.words,List.cons_append,List.append_assoc,List.cons.injEq] at same
  obtain ⟨named,compared⟩ := same
  cases Ident.sql_injective (String.toList_inj.mp named)
  obtain ⟨rfl,operands⟩ := Operator.words_cancel compared
  have apart (n : Nat) (rest after : List (List Char)) : [(placeholder (bound + 1)).toList] ++ rest ≠
      parenthesized (listed [')'] (numbered bound n)) ++ after := by
    obtain ⟨w,row,split⟩ := List.exists_cons_of_ne_nil (listed_some [')'] (numbered bound n))
    rw [split,placeholder_toList]
    intro equal
    cases equal
  cases operand with
  | single v =>
    cases operand' with
    | single w =>
      obtain ⟨rfl,rest⟩ := List.cons.inj bind
      exact ⟨rfl,List.append_cancel_left operands,rest⟩
    | list ws => exact absurd operands (apart _ _ _)
  | list vs =>
    cases operand' with
    | single w => exact absurd operands.symm (apart _ _ _)
    | list ws =>
      obtain ⟨lengths,left⟩ :=
        numbered_cancel (parenthesized_cancel (listed_some _ _) (listed_some _ _) operands)
      obtain ⟨rfl,rest⟩ := List.append_inj bind lengths
      exact ⟨rfl,left,rest⟩

-- What may stand after the conditions.
def Ends (rest : List (List Char)) : Prop :=
  ∀ w ∈ rest.head?, w ≠ "WHERE".toList ∧ w ≠ "AND".toList

theorem Ends.apart {rest further : List (List Char)} (ends : Ends rest) {lead : String}
    (leads : lead = "WHERE" ∨ lead = "AND") : rest ≠ lead.toList :: further := by
  rintro rfl
  obtain ⟨lone,joined⟩ := ends _ rfl
  rcases leads with rfl | rfl
  · exact lone rfl
  · exact joined rfl

theorem conditionWords_cancel {lead : String} (leads : lead = "WHERE" ∨ lead = "AND") {bound : Nat}
    {cs ds : List Clause} {rest after : List (List Char)} (ends : Ends rest) (other : Ends after)
    (same : conditionWords lead bound cs ++ rest = conditionWords lead bound ds ++ after)
    (bind : cs.flatMap Clause.values = ds.flatMap Clause.values) : cs = ds ∧ rest = after := by
  induction cs generalizing ds lead bound with
  | nil =>
    cases ds with
    | nil => exact ⟨rfl,same⟩
    | cons d ds => exact absurd same (ends.apart leads)
  | cons c cs ih =>
    cases ds with
    | nil => exact absurd same.symm (other.apart leads)
    | cons d ds =>
      simp only [conditionWords,List.cons_append,List.append_assoc,List.cons.injEq,true_and] at same
      rw [List.flatMap_cons,List.flatMap_cons] at bind
      obtain ⟨rfl,further,values⟩ := Clause.words_cancel same bind
      obtain ⟨rfl,rest⟩ := ih (.inr rfl) further values
      exact ⟨rfl,rest⟩

theorem optional_cancel {keyword : String} {words : α → List (List Char)}
    (each : ∀ {a b rest after}, words a ++ rest = words b ++ after → a = b ∧ rest = after)
    {x y : Option α} {rest after : List (List Char)} (ends : rest.head? ≠ some keyword.toList)
    (other : after.head? ≠ some keyword.toList)
    (same : optional keyword words x ++ rest = optional keyword words y ++ after) :
    x = y ∧ rest = after := by
  cases x with
  | none =>
    cases y with
    | none => exact ⟨rfl,same⟩
    | some b => exact absurd (congrArg List.head? same) ends
  | some a =>
    cases y with
    | none => exact absurd (congrArg List.head? same).symm other
    | some b =>
      obtain ⟨rfl,further⟩ := each (List.cons.inj same).2
      exact ⟨rfl,further⟩

theorem optional_head {keyword : String} {words : α → List (List Char)} {x : Option α}
    {rest : List (List Char)} {w : List Char} (own : keyword.toList ≠ w) (ends : rest.head? ≠ some w) :
    (optional keyword words x ++ rest).head? ≠ some w := by
  cases x with
  | none => exact ends
  | some a => simpa [optional] using own

namespace Query.Select

theorem countWords_cancel {keyword : String} {n m : Option UInt64} {rest after : List (List Char)}
    (ends : rest.head? ≠ some keyword.toList) (other : after.head? ≠ some keyword.toList)
    (same : countWords keyword n ++ rest = countWords keyword m ++ after) : n = m ∧ rest = after :=
  optional_cancel (fun {n m _ _} same => by
    obtain ⟨digits,rest⟩ := List.cons.inj same
    exact ⟨UInt64.toNat_inj.mp (digits_injective (by simpa using digits)),rest⟩) ends other same

theorem orderWords_cancel {x y : Option (Ident × Order)} {rest after : List (List Char)}
    (ends : rest.head? ≠ some "ORDER".toList) (other : after.head? ≠ some "ORDER".toList)
    (same : orderWords x ++ rest = orderWords y ++ after) : x = y ∧ rest = after :=
  optional_cancel (fun {x y _ _} same => by
    obtain ⟨column,direction⟩ := x
    obtain ⟨column',direction'⟩ := y
    simp only [List.cons_append,List.nil_append,List.cons.injEq,true_and] at same
    obtain ⟨named,directed,rest⟩ := same
    cases Ident.sql_injective (String.toList_inj.mp named)
    have equal : direction = direction' := by
      cases direction <;> cases direction' <;> first | rfl | exact absurd directed (by decide)
    exact ⟨congrArg _ equal,rest⟩) ends other same

theorem tailWords_ends (q : Select) : Ends q.tailWords := by
  unfold tailWords
  cases q.order <;> cases q.limit <;> cases q.offset <;>
    simp [Ends,orderWords,countWords,optional]

theorem tailWords_cancel {q r : Select} (same : q.tailWords = r.tailWords) :
    q.order = r.order ∧ q.limit = r.limit ∧ q.offset = r.offset := by
  have last (n : Option UInt64) {w : List Char} (own : "OFFSET".toList ≠ w) :
      (countWords "OFFSET" n).head? ≠ some w := by
    rw [← List.append_nil (countWords "OFFSET" n)]
    exact optional_head own (by simp)
  obtain ⟨ordered,further⟩ := orderWords_cancel
    (optional_head (by decide) (last q.offset (by decide)))
    (optional_head (by decide) (last r.offset (by decide))) same
  obtain ⟨limited,rest⟩ := countWords_cancel (last q.offset (by decide)) (last r.offset (by decide)) further
  rw [← List.append_nil (countWords "OFFSET" q.offset),← List.append_nil (countWords "OFFSET" r.offset)]
    at rest
  exact ⟨ordered,limited,(countWords_cancel (by simp) (by simp) rest).1⟩

theorem words_cancel {q r : Select} {columns others : List Ident} {table other : Ident}
    (some : columns ≠ []) (more : others ≠ []) (same : q.words columns table = r.words others other)
    (bind : q.conditions.flatMap Clause.values = r.conditions.flatMap Clause.values) :
    columns = others ∧ table = other ∧ q.conditions = r.conditions ∧ q.tailWords = r.tailWords := by
  have plain (is : List Ident) : ∀ w ∈ is.map fun i => i.sql.toList, ',' ∉ w := by
    simp only [List.mem_map]
    rintro w ⟨i,_,rfl⟩
    exact i.sql_without (by decide) (by decide)
  obtain ⟨listed,further⟩ := listed_cancel (by simp) (by simpa using some) (by simpa using more)
    (plain columns) (plain others) same
  have named : columns = others :=
    (List.map_inj_right fun _ _ same => Ident.sql_injective (String.toList_inj.mp same)).mp listed
  obtain ⟨read,conditions⟩ := List.cons.inj (List.cons.inj further).2
  obtain ⟨filtered,rest⟩ := conditionWords_cancel (.inl rfl) q.tailWords_ends r.tailWords_ends
    conditions bind
  exact ⟨named,Ident.sql_injective (String.toList_inj.mp read),filtered,rest⟩

theorem call_shape (q : Select) (c : Call) : (q.call c).shape = q.shape := by
  cases c with
  | fromTable table => simp only [call,fromTable]; split <;> rfl
  | columnList columns => simp only [call,columnList]; split <;> rfl
  | filter condition => simp only [call,filter]; split <;> rfl
  | orderBy column order => simp only [call,orderBy]; split <;> rfl
  | limit n => rfl
  | offset n => rfl

theorem call_columns {q : Select} (some : q.columns ≠ some []) (c : Call) :
    (q.call c).columns ≠ .some [] := by
  cases c with
  | fromTable table => simp only [call,fromTable]; split <;> exact some
  | columnList columns =>
    simp only [call,columnList]
    cases Ident.parseAll columns with
    | error e => exact some
    | ok is =>
      cases is with
      | nil => exact some
      | cons i is => simp
  | filter condition => simp only [call,filter]; split <;> exact some
  | orderBy column order => simp only [call,orderBy]; split <;> exact some
  | limit n => exact some
  | offset n => exact some

theorem ofCalls_columns (shape : Shape) (calls : List Call) :
    (ofCalls shape calls).columns ≠ some [] := by
  have kept : ∀ q : Select, q.columns ≠ some [] → (calls.foldl call q).columns ≠ some [] := by
    induction calls with
    | nil => exact fun q some => some
    | cons c calls ih => exact fun q some => ih _ (call_columns some c)
  exact kept (all shape) (by simp [all])

-- A query over a record type with fields has columns.
theorem projection_some {shape : Shape} {calls : List Call} {columns : List Ident} (some : shape.fields ≠ [])
    (projected : (ofCalls shape calls).projection = .ok columns) : columns ≠ [] := by
  rintro rfl
  have own : (ofCalls shape calls).shape = shape := foldl_same call_shape (all shape) calls
  unfold projection at projected
  cases listed : (ofCalls shape calls).columns with
  | some columns =>
    rw [listed] at projected
    exact ofCalls_columns shape calls (listed.trans (congrArg _ (Except.ok.inj projected)))
  | none =>
    rw [listed,own] at projected
    have none := Ident.parseAll_nil projected
    exact some (List.map_eq_nil_iff.mp none)

-- Two queries ask for the same.
structure SameQuery (q r : Select) : Prop where
  source : q.source = r.source
  projection : q.projection = r.projection
  conditions : q.conditions = r.conditions
  order : q.order = r.order
  limit : q.limit = r.limit
  offset : q.offset = r.offset

section Keys

variable {type : RecordType ρ} {calls others : List Call}

theorem canonicalSql_of_build (some : type.fields ≠ [])
    (built : (ofCalls type.toShape calls).build = .ok s) : canonicalSql s.sql = s.sql := by
  obtain ⟨_,columns,table,projected,_,rfl⟩ := build_ok.mp built
  exact canonicalSql_spaced (words_sql _ columns table) (by decide)
    (words_words (projection_some some projected) table)

theorem sameQuery_of_statement (some : type.fields ≠ [])
    (one : (ofCalls type.toShape calls).build = .ok s)
    (other : (ofCalls type.toShape others).build = .ok s) :
    SameQuery (ofCalls type.toShape calls) (ofCalls type.toShape others) := by
  obtain ⟨_,columns,table,projected,sourced,rfl⟩ := build_ok.mp one
  obtain ⟨_,columns',table',projected',sourced',same⟩ := build_ok.mp other
  have filled := projection_some some projected
  have filled' := projection_some some projected'
  have text := congrArg (String.toList ∘ Statement.sql) same
  simp only [Function.comp_apply,words_sql] at text
  have words := spaced_injective (words_words filled table) (words_words filled' table')
    (List.append_cancel_left text)
  have bound := congrArg (Array.toList ∘ Statement.params) same
  simp only [Function.comp_apply,Statement.ofParts_params,Part.values_append,values_head,values_tail,
    values_whereParts,List.nil_append,List.append_nil] at bound
  obtain ⟨rfl,rfl,conditions,tails⟩ := words_cancel filled filled' words bound
  obtain ⟨order,limit,offset⟩ := tailWords_cancel tails
  exact ⟨sourced.trans sourced'.symm,projected.trans projected'.symm,conditions,order,limit,offset⟩

theorem statement_of_sameQuery (one : (ofCalls type.toShape calls).build = .ok s)
    (other : (ofCalls type.toShape others).build = .ok t)
    (same : SameQuery (ofCalls type.toShape calls) (ofCalls type.toShape others)) : s = t := by
  obtain ⟨_,columns,table,projected,sourced,rfl⟩ := build_ok.mp one
  obtain ⟨_,columns',table',projected',sourced',rfl⟩ := build_ok.mp other
  rw [same.projection,projected'] at projected
  rw [same.source,sourced'] at sourced
  cases projected
  cases sourced
  rw [tail,tail,same.conditions,same.order,same.limit,same.offset]

theorem same_key_iff_same_query (some : type.fields ≠ [])
    (one : (ofCalls type.toShape calls).build = .ok s)
    (other : (ofCalls type.toShape others).build = .ok t) :
    canonicalSql s.sql = s.sql ∧ canonicalSql t.sql = t.sql ∧
      ((Db.request type s).key = (Db.request type t).key ↔
        SameQuery (ofCalls type.toShape calls) (ofCalls type.toShape others)) := by
  have first := canonicalSql_of_build some one
  have second := canonicalSql_of_build some other
  refine ⟨first,second,?_,?_⟩
  · intro key
    simp only [Db.request,Cache.Key.of,Cache.Key.mk.injEq,first,second,true_and] at key
    obtain ⟨text,bound⟩ := key
    have same : s = t := by
      obtain ⟨sql,params⟩ := s
      obtain ⟨sql',params'⟩ := t
      exact congr (congrArg Statement.mk text) (Array.toList_inj.mp bound)
    exact sameQuery_of_statement some one (same ▸ other)
  · intro same
    rw [statement_of_sameQuery one other same]

-- Names that spell keywords: NOT IN after a column, and IN after the column NOT.
theorem same_key_iff_same_query_keywords :
    ∃ s t u, (ofCalls Samples.user.toShape [.columnList ["AND","NOT"],.fromTable "FROM",
        .filter (.among "NOT" .isIn [.int 1])]).build = .ok s ∧
      (ofCalls Samples.user.toShape [.filter (.amongBy "NOT" " in" [.int 1]),.fromTable "users",
        .columnList ["AND","NOT"],.fromTable "FROM"]).build = .ok t ∧
      (ofCalls Samples.user.toShape [.columnList ["AND","NOT"],.fromTable "FROM",
        .filter (.among "NOT" .notIn [.int 1])]).build = .ok u ∧
      (Db.request Samples.user s).key = (Db.request Samples.user t).key ∧
      (Db.request Samples.user s).key ≠ (Db.request Samples.user u).key := by
  obtain ⟨s,one⟩ : ∃ s, (ofCalls Samples.user.toShape [.columnList ["AND","NOT"],.fromTable "FROM",
    .filter (.among "NOT" .isIn [.int 1])]).build = .ok s := ⟨_,rfl⟩
  obtain ⟨t,other⟩ : ∃ t, (ofCalls Samples.user.toShape [.filter (.amongBy "NOT" " in" [.int 1]),
    .fromTable "users",.columnList ["AND","NOT"],.fromTable "FROM"]).build = .ok t := ⟨_,rfl⟩
  obtain ⟨u,apart⟩ : ∃ u, (ofCalls Samples.user.toShape [.columnList ["AND","NOT"],.fromTable "FROM",
    .filter (.among "NOT" .notIn [.int 1])]).build = .ok u := ⟨_,rfl⟩
  have some : Samples.user.fields ≠ [] := by decide
  refine ⟨s,t,u,one,other,apart,?_,?_⟩
  · exact (same_key_iff_same_query some one other).2.2.mpr ⟨rfl,rfl,rfl,rfl,rfl,rfl⟩
  · intro key
    have same := (same_key_iff_same_query some one apart).2.2.mp key
    cases same.conditions

end Keys

end Query.Select

end DataAccess
