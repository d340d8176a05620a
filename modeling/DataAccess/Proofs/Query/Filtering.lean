import DataAccess.Proofs.Query.Chains
import DataAccess.Proofs.Query.Layout
import DataAccess.Proofs.Statement.Raising

-- The rows that a statement is about. Every builder writes its conditions as the same WHERE text
-- with the same values, so what is counted, changed or deleted is what the same conditions select.
-- An UPDATE has its settings before them, and by so much the placeholders of the text are raised.
namespace DataAccess.Query
open DataAccess.Part Statement

-- The WHERE text of clauses and its values, with nothing before them.
def predicate (cs : List Clause) : Statement := (ofText "").pushWhere cs

theorem predicate_parts (cs : List Clause) : predicate cs = ofParts (whereParts cs) :=
  pushWhere_add _ _

theorem pushWhere_raised (s : Statement) (cs : List Clause) :
    s.pushWhere cs = ⟨s.sql ++ raise s.params.size (predicate cs).sql,
      s.params ++ (predicate cs).params⟩ := by
  rw [pushWhere_add,predicate_parts]
  exact add_raised (whereParts_legible cs) s

-- Where no value is bound before it, the WHERE text stands as it is on its own.
theorem raise_predicate_zero (cs : List Clause) : raise 0 (predicate cs).sql = (predicate cs).sql := by
  rw [← String.toList_inj,raise,String.toList_ofList,predicate_parts,ofParts_sql]
  exact (write_raised (whereParts_legible cs) 0 0).symm

theorem write_unnumbered {parts : List Part} (plain : values parts = []) (bound : Nat) :
    write bound parts = write 0 parts := by
  induction parts with
  | nil => rfl
  | cons part rest ih =>
    cases part with
    | text s => rw [write,write,ih plain]
    | value v => cases plain

theorem add_unnumbered {parts : List Part} (plain : values parts = []) (s : Statement) :
    s.add parts = ⟨s.sql ++ (ofParts parts).sql,s.params⟩ := by
  have text : (s.add parts).sql.toList = (s.sql ++ (ofParts parts).sql).toList := by
    rw [add_sql,String.toList_append,ofParts_sql,write_unnumbered plain]
  have bound : (s.add parts).params.toList = s.params.toList := by
    rw [add_params,plain,List.append_nil]
  exact (Statement.mk.injEq ..).mpr ⟨String.toList_inj.mp text,Array.toList_inj.mp bound⟩

theorem ofParts_params_size (parts : List Part) :
    (ofParts parts).params.size = (values parts).length := by
  rw [← Array.length_toList,ofParts_params]

-- A WHERE text after a beginning, which may have values.
theorem headed_predicate (head : List Part) (cs : List Clause) : ofParts (head ++ whereParts cs) =
    ⟨(ofParts head).sql ++ raise (values head).length (predicate cs).sql,
      (values head).toArray ++ (predicate cs).params⟩ := by
  have headed : (ofParts head).params = (values head).toArray := by
    rw [← Array.toList_inj,ofParts_params]
  rw [← ofParts_add,← pushWhere_add,pushWhere_raised,ofParts_params_size,headed]

theorem headed_plain {head : List Part} (headed : values head = []) (cs : List Clause) :
    ofParts (head ++ whereParts cs) =
      ⟨(ofParts head).sql ++ (predicate cs).sql,(predicate cs).params⟩ := by
  rw [headed_predicate,headed,List.length_nil,raise_predicate_zero,Array.empty_append]

theorem framed_plain {head : List Part} (headed : values head = []) (cs : List Clause)
    {tail : List Part} (plain : values tail = []) : ofParts (head ++ whereParts cs ++ tail) =
      ⟨(ofParts head).sql ++ (predicate cs).sql ++ (ofParts tail).sql,(predicate cs).params⟩ := by
  rw [← ofParts_add,headed_plain headed,add_unnumbered plain]

namespace Select

theorem countHead_sql (table : Ident) :
    (ofParts (countHead table)).sql = "SELECT COUNT(*) FROM " ++ table.sql := by
  simp [countHead,ofParts,add,addPart,push]

theorem built_predicate {q : Select} (made : q.build = .ok s) : q.rejected = none ∧
    ∃ columns table, q.projection = .ok columns ∧ q.source = .ok table ∧
      s = ⟨(ofParts (head columns table)).sql ++ (predicate q.conditions).sql ++ (ofParts q.tail).sql,
        (predicate q.conditions).params⟩ := by
  obtain ⟨accepted,columns,table,projected,read,rfl⟩ := build_ok.mp made
  exact ⟨accepted,columns,table,projected,read,
    framed_plain (values_head columns table) q.conditions q.values_tail⟩

theorem counted_predicate {q : Select} : q.buildCount = .ok s ↔ q.rejected = none ∧ ∃ table,
    q.source = .ok table ∧ s = ⟨"SELECT COUNT(*) FROM " ++ table.sql ++ (predicate q.conditions).sql,
      (predicate q.conditions).params⟩ := by
  have plain : ∀ table, values (countHead table) = [] := fun _ => rfl
  simp only [buildCount_ok,headed_plain (plain _),countHead_sql]

end Select

namespace Delete

-- What stands before and after the WHERE text of a DELETE, limited or not.
def opening (name : Ident) : Option UInt64 → String
  | none => "DELETE FROM " ++ name.sql
  | some _ => "DELETE FROM " ++ name.sql ++ " WHERE ctid IN (SELECT ctid FROM " ++ name.sql

def closing : Option UInt64 → String
  | none => ""
  | some n => " LIMIT " ++ toString n.toNat ++ ")"

theorem head_sql (q : Delete) (name : Ident) :
    (ofParts (q.head name)).sql = opening name q.limit := by
  cases limit : q.limit <;> simp [head,limit,opening,ofParts,add,addPart,push,String.append_assoc]

theorem tail_sql (q : Delete) : (ofParts q.tail).sql = closing q.limit := by
  cases limit : q.limit <;> simp [tail,limit,closing,ofParts,add,addPart,push]

theorem built_predicate {q : Delete} (made : q.build confirmed = .ok s) : ∃ name,
    q.table = .ok name ∧ s = ⟨opening name q.limit ++ (predicate q.conditions).sql ++ closing q.limit,
      (predicate q.conditions).params⟩ := by
  obtain ⟨name,read,_,_,rfl⟩ := build_ok.mp made
  rw [framed_plain (values_head q name) q.conditions q.values_tail,head_sql,tail_sql]
  exact ⟨name,read,rfl⟩

end Delete

namespace Update

theorem values_head (name : Ident) (set : Assignments) : values (head name set) = set.map Prod.snd := by
  rw [head,values_append,Assignments.values_parts]
  rfl

theorem built_predicate {q : Update} (made : q.build = .ok s) : ∃ name, q.table = .ok name ∧
    s = ⟨(ofParts (head name q.assignments)).sql ++
      raise q.assignments.length (predicate q.conditions).sql,
        (q.assignments.map Prod.snd).toArray ++ (predicate q.conditions).params⟩ := by
  obtain ⟨name,read,_,_,rfl⟩ := build_ok.mp made
  rw [headed_predicate,values_head,List.length_map]
  exact ⟨name,read,rfl⟩

end Update

-- What conditions select, counts, deletes and changes is told by the same WHERE text and values,
-- whatever else was asked of the builder. In an UPDATE they come after the values that are set,
-- as they do in any statement that has values already. What can be fetched can be counted.
theorem filters_alike (conditions : List Condition) :
    let filter := predicate (conditions.flatMap Condition.clauses)
    (∀ shape calls s, calls.flatMap Select.Call.conditions = conditions →
      (Select.ofCalls shape calls).build = .ok s → ∃ columns table,
        (Select.ofCalls shape calls).projection = .ok columns ∧
        (Select.ofCalls shape calls).source = .ok table ∧
        s = ⟨(ofParts (Select.head columns table)).sql ++ filter.sql ++
          (ofParts (Select.ofCalls shape calls).tail).sql,filter.params⟩ ∧
        (Select.ofCalls shape calls).buildCount =
          .ok ⟨"SELECT COUNT(*) FROM " ++ table.sql ++ filter.sql,filter.params⟩) ∧
    (∀ shape calls s, calls.flatMap Select.Call.conditions = conditions →
      (Select.ofCalls shape calls).buildCount = .ok s → ∃ table,
        (Select.ofCalls shape calls).source = .ok table ∧
        s = ⟨"SELECT COUNT(*) FROM " ++ table.sql ++ filter.sql,filter.params⟩) ∧
    (∀ table calls confirmed s, calls.flatMap Delete.Call.conditions = conditions →
      (Delete.ofCalls table calls).build confirmed = .ok s → ∃ name, Ident.parse table = .ok name ∧
        s = ⟨Delete.opening name (Delete.ofCalls table calls).limit ++ filter.sql ++
          Delete.closing (Delete.ofCalls table calls).limit,filter.params⟩) ∧
    (∀ table calls s, calls.flatMap Update.Call.conditions = conditions →
      (Update.ofCalls table calls).build = .ok s → ∃ name, Ident.parse table = .ok name ∧
        let set := Update.assigned (calls.flatMap Update.Call.entries)
        s = ⟨(ofParts (Update.head name set)).sql ++ raise set.length filter.sql,
          (set.map Prod.snd).toArray ++ filter.params⟩) ∧
    ∀ (s : Statement) cs, s.pushWhere cs = ⟨s.sql ++ raise s.params.size (predicate cs).sql,
      s.params ++ (predicate cs).params⟩ := by
  intro filter
  refine ⟨?_,?_,?_,?_,pushWhere_raised⟩
  · intro shape calls s asked made
    obtain ⟨accepted,columns,table,projected,read,laid⟩ := Select.built_predicate made
    have counted := Select.counted_predicate.mpr ⟨accepted,table,read,rfl⟩
    rw [Select.ofCalls_conditions,asked] at laid counted
    exact ⟨columns,table,projected,read,laid,counted⟩
  · intro shape calls s asked made
    obtain ⟨_,table,read,laid⟩ := Select.counted_predicate.mp made
    rw [Select.ofCalls_conditions,asked] at laid
    exact ⟨table,read,laid⟩
  · intro table calls confirmed s asked made
    obtain ⟨name,read,laid⟩ := Delete.built_predicate made
    rw [Delete.ofCalls_table] at read
    rw [Delete.ofCalls_conditions,asked] at laid
    exact ⟨name,read,laid⟩
  · intro table calls s asked made
    obtain ⟨name,read,laid⟩ := Update.built_predicate made
    rw [Update.ofCalls_table] at read
    rw [Update.ofCalls_conditions,asked,Update.ofCalls_assignments] at laid
    exact ⟨name,read,laid⟩

-- Two conditions, one of them on a list, of a query, of a limited DELETE and of an UPDATE that sets
-- two columns.
theorem filters_alike_at_users :
    let adults : List Condition :=
      [.compare "age" .gte (.int 18),.among "id" .isIn [.int 1,.int 2]]
    let users : Shape := ⟨"User","User","users",[⟨0,"id",.int,false⟩]⟩
    let filter := predicate (adults.flatMap Condition.clauses)
    filter = ⟨" WHERE age >= $1 AND id IN ($2, $3)",#[.int 18,.int 1,.int 2]⟩ ∧
    (∃ table, (Select.ofCalls users (adults.map .filter ++ [.limit 5])).build = .ok
      ⟨"SELECT id FROM users WHERE age >= $1 AND id IN ($2, $3) LIMIT 5",#[.int 18,.int 1,.int 2]⟩ ∧
      (Select.ofCalls users (adults.map .filter ++ [.limit 5])).buildCount =
        .ok ⟨"SELECT COUNT(*) FROM " ++ Ident.sql table ++ filter.sql,filter.params⟩) ∧
    (∃ s name, (Delete.ofCalls "users" (.limit 3 :: adults.map .filter)).build false = .ok s ∧
      s = ⟨Delete.opening name (some 3) ++ filter.sql ++ Delete.closing (some 3),filter.params⟩) ∧
    ∃ s head, (Update.ofCalls "users" (adults.map .filter ++
      [.setMany [("a",.null),("b",.bool true)]])).build = .ok s ∧
        s = ⟨head ++ raise 2 filter.sql,#[.null,.bool true] ++ filter.params⟩ ∧
        raise 2 filter.sql = " WHERE age >= $3 AND id IN ($4, $5)" := by
  intro adults users filter
  obtain ⟨fetched,_,deleted,updated,_⟩ := filters_alike adults
  have selects : (Select.ofCalls users (adults.map .filter ++ [.limit 5])).build = .ok
      ⟨"SELECT id FROM users WHERE age >= $1 AND id IN ($2, $3) LIMIT 5",
        #[.int 18,.int 1,.int 2]⟩ := by
    simp only [users,adults]
    rfl
  obtain ⟨d,deletes⟩ : ∃ d,
    (Delete.ofCalls "users" (.limit 3 :: adults.map .filter)).build false = .ok d := ⟨_,rfl⟩
  obtain ⟨u,updates⟩ : ∃ u, (Update.ofCalls "users" (adults.map .filter ++
    [.setMany [("a",.null),("b",.bool true)]])).build = .ok u := ⟨_,rfl⟩
  obtain ⟨_,table,_,_,_,counted⟩ := fetched _ _ _ rfl selects
  obtain ⟨name,_,limited⟩ := deleted _ _ _ d rfl deletes
  obtain ⟨_,_,set⟩ := updated _ _ u rfl updates
  have text : filter = ⟨" WHERE age >= $1 AND id IN ($2, $3)",#[.int 18,.int 1,.int 2]⟩ := by
    decide +kernel
  refine ⟨text,⟨table,selects,counted⟩,⟨d,name,deletes,limited⟩,u,_,updates,set,?_⟩
  rw [text]
  decide +kernel

end DataAccess.Query
