import DataAccess.Proofs.Ident.Spelling
import DataAccess.Proofs.Query.Filtering
import Mathlib.Data.Finset.Card

-- What an UPDATE sets. Its assignments are a map in the order in which columns were first set: a
-- column stands once, where it was set first, with the value that it was given last. They are
-- written in this order with the placeholders from one on, and the WHERE text goes on behind these.
namespace DataAccess
open DataAccess.Part Statement

namespace Assignments

-- What entries leave behind, one after the other.
structure Leaves (entries : List (Ident × Value)) (held : Assignments) : Prop where
  once : (held.map Prod.fst).Nodup
  every : ∀ column, column ∈ held.map Prod.fst ↔ column ∈ entries.map Prod.fst
  ordered : (held.map Prod.fst).Pairwise fun first second =>
    (entries.map Prod.fst).idxOf first < (entries.map Prod.fst).idxOf second
  last : ∀ column v, (column,v) ∈ held → ∃ before after,
    entries = before ++ (column,v) :: after ∧ column ∉ after.map Prod.fst

theorem set_columns (column : Ident) (v : Value) (held : Assignments) :
    (held.set column v).map Prod.fst =
      if column ∈ held.map Prod.fst then held.map Prod.fst else held.map Prod.fst ++ [column] := by
  induction held with
  | nil => simp [set]
  | cons a rest ih =>
    by_cases same : a.1 = column
    · simp [set,same]
    · have other : column ≠ a.1 := Ne.symm same
      simp only [set,same,if_false,List.map_cons,ih,List.mem_cons,other,false_or]
      split <;> simp

theorem mem_set {column : Ident} {v : Value} {held : Assignments} (once : (held.map Prod.fst).Nodup)
    {a : Ident × Value} : a ∈ held.set column v ↔ a = (column,v) ∨ a ∈ held ∧ a.1 ≠ column := by
  induction held with
  | nil => simp [set]
  | cons b rest ih =>
    rw [List.map_cons,List.nodup_cons] at once
    obtain ⟨apart,further⟩ := once
    by_cases same : b.1 = column
    · subst same
      have others : a ∈ rest → a.1 ≠ b.1 := by
        intro member equal
        rw [← equal] at apart
        exact apart (List.mem_map_of_mem member)
      simp only [set,if_true,List.mem_cons]
      constructor
      · rintro (new | old)
        · exact .inl new
        · exact .inr ⟨.inr old,others old⟩
      · rintro (new | ⟨replaced | old,different⟩)
        · exact .inl new
        · exact absurd (congrArg Prod.fst replaced) different
        · exact .inr old
    · simp only [set,same,if_false,List.mem_cons,ih further]
      constructor
      · rintro (kept | new | ⟨old,different⟩)
        · exact .inr ⟨.inl kept,by rwa [kept]⟩
        · exact .inl new
        · exact .inr ⟨.inr old,different⟩
      · rintro (new | ⟨kept | old,different⟩)
        · exact .inr (.inl new)
        · exact .inl kept
        · exact .inr (.inr ⟨old,different⟩)

theorem leaves_nil : Leaves [] [] := by
  constructor <;> simp

theorem set_once (once : (held.map Prod.fst).Nodup) (column : Ident) (v : Value) :
    ((Assignments.set column v held).map Prod.fst).Nodup := by
  rw [set_columns]
  split
  · exact once
  · rename_i new
    rw [List.nodup_append]
    refine ⟨once,List.nodup_singleton column,?_⟩
    intro c member d last same
    rw [same,List.mem_singleton.mp last] at member
    exact new member

theorem set_every {held : Assignments} {c : Ident} (column : Ident) (v : Value) :
    c ∈ (held.set column v).map Prod.fst ↔ c ∈ held.map Prod.fst ∨ c = column := by
  rw [set_columns]
  split
  · rename_i known
    constructor
    · exact .inl
    · rintro (old | rfl)
      · exact old
      · exact known
  · simp

-- What stands where is not changed by one more entry, and a new column comes behind all others.
theorem set_ordered {held : Assignments} {names : List Ident} (every : ∀ c, c ∈ held.map Prod.fst ↔ c ∈ names)
    (ordered : (held.map Prod.fst).Pairwise fun first second => names.idxOf first < names.idxOf second)
    (column : Ident) (v : Value) : ((held.set column v).map Prod.fst).Pairwise fun first second =>
      (names ++ [column]).idxOf first < (names ++ [column]).idxOf second := by
  have places : ∀ c ∈ held.map Prod.fst, (names ++ [column]).idxOf c = names.idxOf c := by
    intro c member
    rw [List.idxOf_append,if_pos ((every c).mp member)]
  have kept : (held.map Prod.fst).Pairwise fun first second =>
      (names ++ [column]).idxOf first < (names ++ [column]).idxOf second := by
    apply ordered.imp_of_mem
    intro first second early late before
    rwa [places first early,places second late]
  rw [set_columns]
  split
  · exact kept
  · rename_i new
    have absent : column ∉ names := fun member => new ((every column).mpr member)
    rw [List.pairwise_append]
    refine ⟨kept,List.pairwise_singleton _ _,?_⟩
    intro first early second late
    have within := List.idxOf_lt_length_of_mem ((every first).mp early)
    rw [List.mem_singleton.mp late,places first early,List.idxOf_append,if_neg absent]
    omega

theorem Leaves.then_set (leaves : Leaves entries held) (column : Ident) (v : Value) :
    Leaves (entries ++ [(column,v)]) (Assignments.set column v held) := by
  refine ⟨set_once leaves.once column v,?_,?_,?_⟩
  · intro c
    rw [set_every,leaves.every c]
    simp
  · rw [List.map_append]
    exact set_ordered leaves.every leaves.ordered column v
  · intro c w member
    rcases (mem_set leaves.once).mp member with new | ⟨old,different⟩
    · cases new
      exact ⟨entries,[],rfl,by simp⟩
    · obtain ⟨before,after,split,later⟩ := leaves.last c w old
      refine ⟨before,after ++ [(column,v)],by simp [split],?_⟩
      rw [List.map_append,List.mem_append,not_or]
      exact ⟨later,by simpa using different⟩

theorem Leaves.run (leaves : Leaves before held) (entries : List (Ident × Value)) :
    Leaves (before ++ entries) (entries.foldl (fun held a => Assignments.set a.1 a.2 held) held) := by
  induction entries generalizing before held with
  | nil => simpa using leaves
  | cons a entries ih =>
    have next := ih (leaves.then_set a.1 a.2)
    rwa [List.append_assoc,List.singleton_append] at next

-- The SET text of columns, each with the next placeholder.
def text (columns : List Ident) : String :=
  " SET " ++ ", ".intercalate (columns.mapIdx fun k column => column.sql ++ " = " ++ placeholder (k + 1))

theorem write_assignments (bound : Nat) (held : Assignments) :
    write bound (joined ", " assignment held) = (", ".intercalate ((held.map Prod.fst).mapIdx
      fun k column => column.sql ++ " = " ++ placeholder (bound + k + 1))).toList := by
  induction held generalizing bound with
  | nil => rfl
  | cons a rest ih =>
    cases rest with
    | nil => simp [joined,assignment,write]
    | cons b rest =>
      have further := ih (bound + 1)
      have onward : ∀ k, bound + (k + 1) + 1 = bound + 1 + k + 1 := by omega
      simp only [joined,List.map_cons,List.mapIdx_cons] at further
      simp only [joined,List.flatMap_cons,List.map_cons,List.mapIdx_cons,String.intercalate_cons_cons,
        String.toList_append,onward]
      rw [← further]
      simp [assignment,write]

theorem parts_text {held : Assignments} (some : held ≠ []) (bound : Nat) :
    write bound held.parts = " SET ".toList ++ write bound (joined ", " assignment held) := by
  cases held with
  | nil => exact absurd rfl some
  | cons a rest => rfl

theorem write_text {held : Assignments} (some : held ≠ []) :
    write 0 held.parts = (text (held.map Prod.fst)).toList := by
  rw [parts_text some,write_assignments,text,String.toList_append]
  simp only [Nat.zero_add]

theorem text_numbered {held : Assignments} (some : held ≠ []) :
    placeholders (text (held.map Prod.fst)).toList = (List.range' 1 held.length).map (Nat.toDigits 10) := by
  have read := placeholders_write held.parts_legible 0
  rwa [write_text some,values_parts,List.length_map] at read

end Assignments

namespace Query

theorem predicate_numbered (k : Nat) (cs : List Clause) :
    placeholders (raise k (predicate cs).sql).toList =
      (List.range' (k + 1) (predicate cs).params.size).map (Nat.toDigits 10) := by
  have written : (raise k (predicate cs).sql).toList = write k (whereParts cs) := by
    rw [raise,String.toList_ofList,predicate_parts,ofParts_sql,← write_raised (whereParts_legible cs) 0 k,
      Nat.zero_add]
  rw [written,placeholders_write (whereParts_legible cs),predicate_parts,ofParts_params_size]

end Query

namespace Query.Update
open Assignments (Leaves)

-- The entries whose columns are names; the others are rejected.
def accepted (entries : List (String × Value)) : List (Ident × Value) :=
  entries.filterMap fun entry => (Ident.parse entry.1).toOption.map (·,entry.2)

theorem accepted_ok (read : Ident.parse entry.1 = .ok column) (entries : List (String × Value)) :
    accepted (entry :: entries) = (column,entry.2) :: accepted entries := by
  simp [accepted,read,Except.toOption]

theorem accepted_error (failed : Ident.parse entry.1 = .error e) (entries : List (String × Value)) :
    accepted (entry :: entries) = accepted entries := by
  simp [accepted,failed,Except.toOption]

theorem assigned_leaves (entries : List (String × Value)) : Leaves (accepted entries) (assigned entries) := by
  have steps : ∀ held, entries.foldl assign held =
      (accepted entries).foldl (fun held a => Assignments.set a.1 a.2 held) held := by
    induction entries with
    | nil => intro held; rfl
    | cons entry entries ih =>
      intro held
      rw [List.foldl_cons,ih,assign]
      cases read : Ident.parse entry.1 with
      | ok column => rw [accepted_ok read,List.foldl_cons]
      | error e => rw [accepted_error read]
  rw [assigned,steps]
  exact Assignments.leaves_nil.run (accepted entries)

theorem set_rejected (q : Update) (failed : Ident.parse column = .error e) (v : Value) :
    (q.set column v).assignments = q.assignments := by
  rw [set_eq,assign,failed]

-- Entries with names for columns are accepted as they are.
theorem accepted_named {entries : List (String × Value)}
    (named : ∀ entry ∈ entries, ∃ column, Ident.parse entry.1 = .ok column) :
    (accepted entries).map (fun a => (a.1.sql,a.2)) = entries := by
  induction entries with
  | nil => rfl
  | cons entry entries ih =>
    obtain ⟨column,read⟩ := named entry (by simp)
    have further := ih fun other member => named other (by simp [member])
    rw [accepted_ok read,List.map_cons,further,Ident.sql_parse read]

theorem assigned_some {entries : List (String × Value)} (given : entries ≠ [])
    (named : ∀ entry ∈ entries, ∃ column, Ident.parse entry.1 = .ok column) : assigned entries ≠ [] := by
  intro empty
  have none : (accepted entries).map Prod.fst = [] := by
    apply List.eq_nil_iff_forall_not_mem.mpr
    intro column member
    rw [← (assigned_leaves entries).every,empty] at member
    cases member
  have whole := accepted_named named
  rw [List.map_eq_nil_iff.mp none] at whole
  exact given whole.symm

theorem calls_accepted {calls : List Call}
    (named : ∀ entry ∈ calls.flatMap Call.entries, ∃ column, Ident.parse entry.1 = .ok column)
    (compared : ∀ condition ∈ calls.flatMap Call.conditions, ∃ clause, condition.clause = .ok clause)
    (table : String) : (ofCalls table calls).rejected = none := by
  rw [ofCalls_rejected,List.findSome?_eq_none_iff]
  intro call called
  have entries : ∀ entry ∈ call.entries, entryFault? entry = none := by
    intro entry member
    exact fault?_none.mpr (named entry (List.mem_flatMap.mpr ⟨call,called,member⟩))
  cases call with
  | set column v => exact List.findSome?_eq_none_iff.mpr entries
  | setMany entries => exact List.findSome?_eq_none_iff.mpr entries
  | filter condition =>
    apply fault?_none.mpr
    exact compared condition (List.mem_flatMap.mpr ⟨_,called,List.mem_singleton.mpr rfl⟩)

theorem head_text (name : Ident) {held : Assignments} (some : held ≠ []) :
    (ofParts (head name held)).sql = "UPDATE " ++ name.sql ++ Assignments.text (held.map Prod.fst) := by
  apply String.toList_injective
  rw [ofParts_sql,String.toList_append,← Assignments.write_text some]
  simp [head,write]

theorem distinct_columns {entries : List (String × Value)}
    (named : ∀ entry ∈ entries, ∃ column, Ident.parse entry.1 = .ok column) :
    (assigned entries).length = (entries.map Prod.fst).toFinset.card := by
  have leaves := assigned_leaves entries
  have names : entries.map Prod.fst = ((accepted entries).map Prod.fst).map Ident.sql := by
    conv => lhs; rw [← accepted_named named]
    simp
  have same : (entries.map Prod.fst).toFinset = (((assigned entries).map Prod.fst).map Ident.sql).toFinset := by
    apply Finset.ext
    intro name
    rw [names,List.mem_toFinset,List.mem_toFinset,List.mem_map,List.mem_map]
    simp only [leaves.every]
  have once : (((assigned entries).map Prod.fst).map Ident.sql).Nodup :=
    leaves.once.map fun _ _ => Ident.sql_injective
  rw [same,List.toFinset_card_of_nodup once,List.length_map,List.length_map]

-- After any calls an UPDATE holds, of the entries whose columns are names, each column once, in the order
-- in which they were first set and with the last value; a column that is rejected changes nothing. With
-- nothing rejected this is what is written: a placeholder for each distinct column, the numbers from one
-- on, and the WHERE text with the numbers behind them.
theorem settings_ordered (table : String) (calls : List Call) :
    let entries := calls.flatMap Call.entries
    let set := (ofCalls table calls).assignments
    let filter := predicate ((calls.flatMap Call.conditions).flatMap Condition.clauses)
    Leaves (accepted entries) set ∧
    (∀ (q : Update) column v e, Ident.parse column = .error e →
      (q.set column v).assignments = q.assignments) ∧
    (∀ name, Ident.parse table = .ok name → entries ≠ [] →
      (∀ entry ∈ entries, ∃ column, Ident.parse entry.1 = .ok column) →
      (∀ condition ∈ calls.flatMap Call.conditions, ∃ clause, condition.clause = .ok clause) →
      (accepted entries).map (fun a => (a.1.sql,a.2)) = entries ∧
      (ofCalls table calls).build =
        .ok ⟨"UPDATE " ++ table ++ Assignments.text (set.map Prod.fst) ++ raise set.length filter.sql,
          (set.map Prod.snd).toArray ++ filter.params⟩ ∧
      set.length = (entries.map Prod.fst).toFinset.card ∧
      placeholders (Assignments.text (set.map Prod.fst)).toList =
        (List.range' 1 set.length).map (Nat.toDigits 10) ∧
      placeholders (raise set.length filter.sql).toList =
        (List.range' (set.length + 1) filter.params.size).map (Nat.toDigits 10)) := by
  intro entries set filter
  have held : set = assigned entries := ofCalls_assignments table calls
  have leaves : Leaves (accepted entries) set := by
    rw [held]
    exact assigned_leaves entries
  refine ⟨leaves,?_,?_⟩
  · intro q column v e failed
    exact set_rejected q failed v
  · intro name read given named compared
    have some : set ≠ [] := by
      rw [held]
      exact assigned_some given named
    have spelled : name.sql = table := Ident.sql_parse read
    have conditions := ofCalls_conditions table calls
    refine ⟨accepted_named named,?_,?_,Assignments.text_numbered some,predicate_numbered set.length _⟩
    · apply build_ok.mpr
      refine ⟨name,(ofCalls_table table calls).trans read,calls_accepted named compared table,some,?_⟩
      rw [conditions,headed_predicate,head_text name some,values_head,List.length_map,spelled]
    · rw [held]
      exact distinct_columns named

-- A column that is set again behind a comparison, and one that is no name.
theorem settings_ordered_at_users :
    let calls : List Call := [.setMany [("name",.text "a"),("age",.int 1)],
      .filter (.compare "id" .eq (.int 7)),.set "name" (.text "b")]
    (ofCalls "users" calls).build =
      .ok ⟨"UPDATE users SET name = $1, age = $2 WHERE id = $3",#[.text "b",.int 1,.int 7]⟩ ∧
    (ofCalls "users" calls).assignments.length = 2 ∧
    ((ofCalls "users" calls).set "my name" .null).assignments = (ofCalls "users" calls).assignments := by
  intro calls
  obtain ⟨_,rejected,written⟩ := settings_ordered "users" calls
  have named : ∀ entry ∈ calls.flatMap Call.entries, ∃ column, Ident.parse entry.1 = .ok column := by
    intro entry member
    simp only [calls,Call.entries,List.flatMap_cons,List.flatMap_nil,List.append_nil,List.cons_append,
      List.nil_append,List.mem_cons,List.not_mem_nil,or_false] at member
    rcases member with rfl | rfl | rfl <;> exact ⟨_,rfl⟩
  have compared : ∀ condition ∈ calls.flatMap Call.conditions, ∃ clause, condition.clause = .ok clause := by
    intro condition member
    simp only [calls,Call.conditions,List.flatMap_cons,List.flatMap_nil,List.append_nil,List.nil_append,
      List.mem_singleton] at member
    rw [member]
    exact ⟨_,rfl⟩
  obtain ⟨_,built,distinct,_⟩ := written _ rfl (by simp [calls,Call.entries]) named compared
  refine ⟨?_,?_,rejected _ "my name" .null _ rfl⟩
  · rw [built]
    decide +kernel
  · rw [distinct]
    decide +kernel

end Query.Update

end DataAccess
