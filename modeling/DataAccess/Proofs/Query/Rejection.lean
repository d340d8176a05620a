import DataAccess.Proofs.Query.Chains
import DataAccess.Proofs.Query.Layout
import DataAccess.Session.Execution

-- Calls that are refused. A builder fails with the fault of the first refused call whatever else is
-- called, one that builds shows every comparison it was asked for, and a builder that fails does so
-- before the database is touched.
namespace DataAccess.Query
open Failure
open Statement (ofParts)

-- Why a comparison is refused. An operator by its text is read first, then the column.
inductive Condition.Refused : Condition → Fault → Prop where
  | column (bad : Ident.parse column = .error e) : Refused (.compare column op v) e.asFault
  | listNeeded (named : Ident.parse column = .ok i) (lists : op.takesList = true) :
      Refused (.compare column op v) (.listNeeded op.sql i.sql)
  | listColumn (bad : Ident.parse column = .error e) : Refused (.among column op vs) e.asFault
  | listRefused (named : Ident.parse column = .ok i) (scalar : op.takesList = false) :
      Refused (.among column op vs) (.listRefused op.sql i.sql)
  | emptyList (named : Ident.parse column = .ok i) (lists : op.takesList = true) :
      Refused (.among column op []) (.emptyList op.sql i.sql)
  | operator (unknown : Operator.parse operator = .error e) :
      Refused (.compareBy column operator v) e.asFault
  | listOperator (unknown : Operator.parse operator = .error e) :
      Refused (.amongBy column operator vs) e.asFault
  | compareBy (known : Operator.parse operator = .ok op) (refused : Refused (.compare column op v) f) :
      Refused (.compareBy column operator v) f
  | amongBy (known : Operator.parse operator = .ok op) (refused : Refused (.among column op vs) f) :
      Refused (.amongBy column operator vs) f
  | given : Refused (.given (.error e)) e.asFault

namespace Condition

theorem Refused.fault {c : Condition} (refused : c.Refused f) : c.fault? = some f := by
  induction refused with
  | column bad => simp [fault?,clause,comparison,bad,Except.bind,Query.fault?]
  | listNeeded named lists =>
    simp [fault?,clause,comparison,named,Clause.compare,lists,Except.bind,Query.fault?,Error.asFault]
  | listColumn bad => simp [fault?,clause,membership,bad,Except.bind,Query.fault?]
  | listRefused named scalar =>
    simp [fault?,clause,membership,named,Clause.list,scalar,Except.bind,Query.fault?,Error.asFault]
  | emptyList named lists =>
    simp [fault?,clause,membership,named,Clause.list,lists,Except.bind,Query.fault?,Error.asFault]
  | operator unknown => simp [fault?,clause,unknown,Except.bind,Query.fault?]
  | listOperator unknown => simp [fault?,clause,unknown,Except.bind,Query.fault?]
  | compareBy known refused ih => simpa [fault?,clause,known,Except.bind] using ih
  | amongBy known refused ih => simpa [fault?,clause,known,Except.bind] using ih
  | given => rfl

theorem compare_refused (failed : comparison column op v = .error e) :
    Refused (.compare column op v) e.asFault := by
  unfold comparison at failed
  cases read : Ident.parse column with
  | error bad =>
    rw [read] at failed
    cases failed
    exact .column read
  | ok i =>
    rw [read] at failed
    change Clause.compare i op v = .error e at failed
    unfold Clause.compare at failed
    split at failed
    · rename_i lists
      cases failed
      exact .listNeeded read lists
    · cases failed

theorem among_refused (failed : membership column op vs = .error e) :
    Refused (.among column op vs) e.asFault := by
  unfold membership at failed
  cases read : Ident.parse column with
  | error bad =>
    rw [read] at failed
    cases failed
    exact .listColumn read
  | ok i =>
    rw [read] at failed
    change Clause.list i op vs = .error e at failed
    unfold Clause.list at failed
    split at failed
    · rename_i scalar
      cases failed
      exact .listRefused read (by simpa using scalar)
    · rename_i lists
      split at failed
      · rename_i empty
        cases failed
        cases List.isEmpty_iff.mp empty
        exact .emptyList read (by simpa using lists)
      · cases failed

theorem refused_of_fault {c : Condition} (fault : c.fault? = some f) : c.Refused f := by
  obtain ⟨e,failed,rfl⟩ : ∃ e, c.clause = .error e ∧ e.asFault = f := by
    unfold fault? at fault
    cases made : c.clause with
    | error e => exact ⟨e,rfl,by simpa [made,Query.fault?] using fault⟩
    | ok k => simp [made,Query.fault?] at fault
  cases c with
  | compare column op v => exact compare_refused failed
  | among column op vs => exact among_refused failed
  | compareBy column operator v =>
    cases read : Operator.parse operator with
    | error bad =>
      rw [clause,read] at failed
      cases failed
      exact .operator read
    | ok op =>
      rw [clause,read] at failed
      exact .compareBy read (compare_refused failed)
  | amongBy column operator vs =>
    cases read : Operator.parse operator with
    | error bad =>
      rw [clause,read] at failed
      cases failed
      exact .listOperator read
    | ok op =>
      rw [clause,read] at failed
      exact .amongBy read (among_refused failed)
  | given tried =>
    cases failed
    exact .given

end Condition

-- One call on a builder. Where a builder is for a table, that it is named is the first call.
inductive Step where
  | table (name : String)
  | select (call : Select.Call)
  | update (call : Update.Call)
  | delete (call : Delete.Call)

namespace Step

def conditions : Step → List Condition
  | table _ => []
  | select call => call.conditions
  | update call => call.conditions
  | delete call => call.conditions

def fault? : Step → Option Fault
  | table name => Query.fault? (Ident.parse name)
  | select call => call.fault?
  | update call => call.fault?
  | delete call => call.fault?

-- Why a call is refused.
inductive Refused : Step → Fault → Prop where
  | table (bad : Ident.parse name = .error e) : Refused (.table name) e.asFault
  | fromTable (bad : Ident.parse name = .error e) :
      Refused (.select (.fromTable name)) e.asFault
  | columnList (bad : Ident.parseAll columns = .error e) :
      Refused (.select (.columnList columns)) e.asFault
  | emptyProjection : Refused (.select (.columnList [])) .emptyProjection
  | orderBy (bad : Ident.parse column = .error e) :
      Refused (.select (.orderBy column order)) e.asFault
  | set (bad : Ident.parse column = .error e) : Refused (.update (.set column v)) e.asFault
  | setMany (named : ∀ entry ∈ before, ∃ i, Ident.parse entry.1 = .ok i)
      (bad : Ident.parse column = .error e) :
      Refused (.update (.setMany (before ++ (column,v) :: after))) e.asFault
  | selectFilter (refused : condition.Refused f) : Refused (.select (.filter condition)) f
  | updateFilter (refused : condition.Refused f) : Refused (.update (.filter condition)) f
  | deleteFilter (refused : condition.Refused f) : Refused (.delete (.filter condition)) f

theorem fault?_error {tried : Except Error α} :
    Query.fault? tried = some f ↔ ∃ e, tried = .error e ∧ e.asFault = f := by
  cases tried <;> simp [Query.fault?]

theorem Refused.fault {step : Step} (refused : step.Refused f) : step.fault? = some f := by
  cases refused with
  | table bad => exact fault?_error.mpr ⟨_,bad,rfl⟩
  | fromTable bad => exact fault?_error.mpr ⟨_,bad,rfl⟩
  | columnList bad => simp [fault?,Select.Call.fault?,bad,Query.fault?]
  | emptyProjection => rfl
  | orderBy bad => exact fault?_error.mpr ⟨_,bad,rfl⟩
  | set bad =>
    simp [fault?,Update.Call.fault?,Update.Call.entries,Update.entryFault?,bad,Query.fault?]
  | @setMany before column e v after named bad =>
    refine List.findSome?_eq_some_iff.mpr ⟨before,(column,v),after,rfl,?_,?_⟩
    · exact fault?_error.mpr ⟨_,bad,rfl⟩
    · exact fun entry member => fault?_none.mpr (named entry member)
  | selectFilter refused => exact refused.fault
  | updateFilter refused => exact refused.fault
  | deleteFilter refused => exact refused.fault

theorem refused_of_fault {step : Step} (fault : step.fault? = some f) : step.Refused f := by
  cases step with
  | table name =>
    obtain ⟨e,bad,rfl⟩ := fault?_error.mp fault
    exact .table bad
  | select call =>
    cases call with
    | fromTable name =>
      obtain ⟨e,bad,rfl⟩ := fault?_error.mp fault
      exact .fromTable bad
    | columnList columns =>
      simp only [fault?,Select.Call.fault?] at fault
      split at fault
      · rename_i empty
        cases Ident.parseAll_nil empty
        cases fault
        exact .emptyProjection
      · obtain ⟨e,bad,rfl⟩ := fault?_error.mp fault
        exact .columnList bad
    | filter condition => exact .selectFilter (Condition.refused_of_fault fault)
    | orderBy column order =>
      obtain ⟨e,bad,rfl⟩ := fault?_error.mp fault
      exact .orderBy bad
    | limit n => cases fault
    | offset n => cases fault
  | update call =>
    cases call with
    | set column v =>
      simp only [fault?,Update.Call.fault?,Update.Call.entries,List.findSome?_singleton] at fault
      obtain ⟨e,bad,rfl⟩ := fault?_error.mp fault
      exact .set bad
    | setMany entries =>
      obtain ⟨before,entry,after,rfl,own,earlier⟩ := List.findSome?_eq_some_iff.mp fault
      obtain ⟨e,bad,rfl⟩ := fault?_error.mp own
      exact .setMany (fun entry member => fault?_none.mp (earlier entry member)) bad
    | filter condition => exact .updateFilter (Condition.refused_of_fault fault)
  | delete call =>
    cases call with
    | filter condition => exact .deleteFilter (Condition.refused_of_fault fault)
    | limit n => cases fault

theorem not_refused {step : Step} : (∀ f, ¬step.Refused f) ↔ step.fault? = none := by
  constructor
  · intro accepted
    cases fault : step.fault? with
    | none => rfl
    | some f => exact absurd (refused_of_fault fault) (accepted f)
  · intro accepted f refused
    cases refused.fault.symm.trans accepted

end Step

-- The chains of calls on the builders that have conditions.
inductive Chain where
  | select (shape : Shape) (calls : List Select.Call)
  | update (table : String) (calls : List Update.Call)
  | delete (table : String) (calls : List Delete.Call)

namespace Chain

def steps : Chain → List Step
  | select _ calls => calls.map .select
  | update table calls => .table table :: calls.map .update
  | delete table calls => .table table :: calls.map .delete

def conditions (chain : Chain) : List Condition := chain.steps.flatMap Step.conditions

-- What a chain builds, by each of its builder's ways.
inductive Builds : Chain → Except Error Statement → Prop where
  | select : Builds (.select shape calls) (Select.ofCalls shape calls).build
  | count : Builds (.select shape calls) (Select.ofCalls shape calls).buildCount
  | update : Builds (.update table calls) (Update.ofCalls table calls).build
  | delete (confirmed : Bool) :
      Builds (.delete table calls) ((Delete.ofCalls table calls).build confirmed)

-- What stands before and after the WHERE text in a statement of the chain.
inductive Frame : Chain → List Part → List Part → Prop where
  | select (columns : List Ident) (table : Ident) :
      Frame (.select shape calls) (Select.head columns table) (Select.ofCalls shape calls).tail
  | count (table : Ident) : Frame (.select shape calls) (Select.countHead table) []
  | update (name : Ident) :
      Frame (.update table calls) (Update.head name (Update.ofCalls table calls).assignments) []
  | delete (name : Ident) : Frame (.delete table calls)
      ((Delete.ofCalls table calls).head name) (Delete.ofCalls table calls).tail

def fault? (chain : Chain) : Option Fault := chain.steps.findSome? Step.fault?

theorem select_fault (shape : Shape) (calls : List Select.Call) :
    (select shape calls).fault? = (Select.ofCalls shape calls).rejected := by
  rw [Select.ofCalls_rejected,fault?,steps,List.findSome?_map]
  rfl

theorem table_first (table : String) (steps : List Step) :
    (Step.table table :: steps).findSome? Step.fault? =
      (Query.fault? (Ident.parse table)).or (steps.findSome? Step.fault?) := by
  rw [List.findSome?_cons,Step.fault?]
  cases Query.fault? (Ident.parse table) <;> rfl

theorem update_fault (table : String) (calls : List Update.Call) : (update table calls).fault? =
    (Query.fault? (Ident.parse table)).or (Update.ofCalls table calls).rejected := by
  rw [Update.ofCalls_rejected,fault?,steps,table_first,List.findSome?_map]
  rfl

theorem delete_fault (table : String) (calls : List Delete.Call) : (delete table calls).fault? =
    (Query.fault? (Ident.parse table)).or (Delete.ofCalls table calls).rejected := by
  rw [Delete.ofCalls_rejected,fault?,steps,table_first,List.findSome?_map]
  rfl

theorem parse_error (bad : Ident.parse name = .error e) : e = .validation e.asFault := by
  unfold Ident.parse at bad
  split at bad
  · cases bad
    rfl
  · split at bad
    · cases bad
      rfl
    · cases bad

-- A table that is none comes before all other faults, and both are what building fails with.
theorem table_then_rejected {table : String} {rejected : Rejection} {next : Ident → Except Error α}
    (fault : (Query.fault? (Ident.parse table)).or rejected = some f) :
    (Ident.parse table >>= fun name => rejected.check >>= fun _ => next name) =
      .error (.validation f) := by
  cases read : Ident.parse table with
  | error e =>
    rw [read] at fault
    cases fault
    exact congrArg Except.error (parse_error read)
  | ok name =>
    rw [read] at fault
    change rejected = some f at fault
    rw [fault]
    rfl

theorem Builds.fails {chain : Chain} (builds : chain.Builds built) (fault : chain.fault? = some f) :
    built = .error (.validation f) := by
  cases builds with
  | select =>
    rw [select_fault] at fault
    rw [Select.build,fault]
    rfl
  | count =>
    rw [select_fault] at fault
    rw [Select.buildCount,fault]
    rfl
  | @update table calls =>
    rw [update_fault] at fault
    rw [Update.build,Update.ofCalls_table]
    exact table_then_rejected fault
  | @delete table calls confirmed =>
    rw [delete_fault] at fault
    rw [Delete.build_statement,Delete.ofCalls_table]
    exact table_then_rejected fault

theorem select_conditions (shape : Shape) (calls : List Select.Call) :
    (select shape calls).conditions.flatMap Condition.clauses =
      (Select.ofCalls shape calls).conditions := by
  rw [Select.ofCalls_conditions,conditions,steps,List.flatMap_map]
  rfl

theorem update_conditions (table : String) (calls : List Update.Call) :
    (update table calls).conditions.flatMap Condition.clauses =
      (Update.ofCalls table calls).conditions := by
  rw [Update.ofCalls_conditions,conditions,steps,List.flatMap_cons,List.flatMap_map]
  rfl

theorem delete_conditions (table : String) (calls : List Delete.Call) :
    (delete table calls).conditions.flatMap Condition.clauses =
      (Delete.ofCalls table calls).conditions := by
  rw [Delete.ofCalls_conditions,conditions,steps,List.flatMap_cons,List.flatMap_map]
  rfl

theorem Builds.framed {chain : Chain} (builds : chain.Builds built) (made : built = .ok s) :
    chain.fault? = none ∧ ∃ head tail, chain.Frame head tail ∧
      s = ofParts (head ++ whereParts (chain.conditions.flatMap Condition.clauses) ++ tail) := by
  cases builds with
  | @select shape calls =>
    obtain ⟨accepted,columns,table,_,_,rfl⟩ := Select.build_ok.mp made
    exact ⟨by rw [select_fault,accepted],_,_,.select columns table,by rw [select_conditions]⟩
  | @count shape calls =>
    obtain ⟨accepted,table,_,rfl⟩ := Select.buildCount_ok.mp made
    exact ⟨by rw [select_fault,accepted],_,_,.count table,
      by rw [select_conditions,List.append_nil]⟩
  | @update table calls =>
    obtain ⟨name,read,accepted,_,rfl⟩ := Update.build_ok.mp made
    rw [Update.ofCalls_table] at read
    exact ⟨by rw [update_fault,read,accepted]; rfl,_,_,.update name,
      by rw [update_conditions,List.append_nil]⟩
  | @delete table calls confirmed =>
    obtain ⟨name,read,accepted,_,rfl⟩ := Delete.build_ok.mp made
    rw [Delete.ofCalls_table] at read
    exact ⟨by rw [delete_fault,read,accepted]; rfl,_,_,.delete name,by rw [delete_conditions]⟩

theorem fault?_none {chain : Chain} :
    chain.fault? = none ↔ ∀ step ∈ chain.steps, ∀ f, ¬step.Refused f := by
  simp only [fault?,List.findSome?_eq_none_iff,Step.not_refused]

theorem fault?_some {chain : Chain} : chain.fault? = some f ↔ ∃ before step after,
    chain.steps = before ++ step :: after ∧ step.Refused f ∧ ∀ s ∈ before, ∀ g, ¬s.Refused g := by
  simp only [fault?,List.findSome?_eq_some_iff,Step.not_refused]
  constructor
  · rintro ⟨before,step,after,split,own,earlier⟩
    exact ⟨before,step,after,split,Step.refused_of_fault own,earlier⟩
  · rintro ⟨before,step,after,split,own,earlier⟩
    exact ⟨before,step,after,split,own.fault,earlier⟩

theorem conditions_accepted {chain : Chain} (accepted : chain.fault? = none) :
    ∀ condition ∈ chain.conditions, condition.fault? = none := by
  refine Condition.accepted_of_calls ?_ accepted
  intro step
  cases step with
  | table name => simp [Step.conditions]
  | select call => exact call.conditions_fault
  | update call => exact call.conditions_fault
  | delete call => exact call.conditions_fault

end Chain

-- What runs a statement of a builder, beside what builds it.
inductive Ran : {α : Type} → Except Error Statement → Task ρ α → Prop where
  | fetchAll (q : Select) (type : RecordType σ) : Ran q.build (q.fetchAll type)
  | fetchCached (q : Select) (type : RecordType ρ) : Ran q.build (q.fetchCached type)
  | first (q : Select) (type : RecordType σ) : Ran q.build (q.first type)
  | fetchRows (q : Select) : Ran q.build q.fetchRows
  | count (q : Select) : Ran q.buildCount q.count
  | update (q : Update) : Ran q.build q.execute
  | delete (q : Delete) (confirmed : Bool) : Ran (q.build confirmed) (q.execute confirmed)

theorem Select.withLimit_fails {q : Select} (failed : q.build = .error e) (n : UInt64) :
    (q.withLimit n).build = .error e := by
  simp only [build,bind_eq_error] at failed ⊢
  rcases failed with early | ⟨u,accepted,bad⟩
  · exact .inl early
  · rcases bad with bad | ⟨columns,projected,bad⟩
    · exact .inr ⟨u,accepted,.inl bad⟩
    · rcases bad with bad | ⟨table,_,made⟩
      · exact .inr ⟨u,accepted,.inr ⟨columns,projected,.inl bad⟩⟩
      · cases made

theorem Ran.fails {task : Task ρ α} (ran : Ran built task) (failed : built = .error e) (db : Db ρ) :
    task db = (.error e,db) := by
  cases ran with
  | fetchAll q type => rw [Select.fetchAll,failed]; rfl
  | fetchCached q type => rw [Select.fetchCached,failed]; rfl
  | first q type => rw [Select.first,Select.fetchAll,Select.withLimit_fails failed]; rfl
  | fetchRows q => rw [Select.fetchRows,failed]; rfl
  | count q => rw [Select.count,failed]; rfl
  | update q => rw [Update.execute,failed]; rfl
  | delete q confirmed => rw [Delete.execute,failed]; rfl

-- The first refused call decides, whatever is called after it; a statement shows each comparison
-- that was asked for, in order, and a DELETE that was not confirmed at least one. What runs a
-- builder that fails leaves the database as it is: no connection lent, nothing kept or counted.
theorem no_call_dropped :
    (∀ (chain : Chain) before step after f, chain.steps = before ++ step :: after →
      (∀ s ∈ before, ∀ g, ¬s.Refused g) → step.Refused f →
        ∀ built, chain.Builds built → built = .error (.validation f)) ∧
    (∀ (chain : Chain) s, chain.Builds (.ok s) → (∀ step ∈ chain.steps, ∀ f, ¬step.Refused f) ∧
      ∃ clauses head tail, chain.conditions.map Condition.clause = clauses.map .ok ∧
        chain.Frame head tail ∧ s = ofParts (head ++ whereParts clauses ++ tail)) ∧
    (∀ table calls s, (Delete.ofCalls table calls).build false = .ok s →
      (Chain.delete table calls).conditions ≠ []) ∧
    (∀ (ρ α : Type) built (task : Task ρ α) e, Ran built task → built = .error e →
      ∀ db, task db = (.error e,db)) := by
  refine ⟨?_,?_,?_,?_⟩
  · intro chain before step after f split earlier own built builds
    exact builds.fails (Chain.fault?_some.mpr ⟨before,step,after,split,own,earlier⟩)
  · intro chain s builds
    obtain ⟨accepted,head,tail,frame,made⟩ := builds.framed rfl
    have clauses := Condition.clauses_of_accepted (Chain.conditions_accepted accepted)
    exact ⟨Chain.fault?_none.mp accepted,_,head,tail,clauses.1,frame,made⟩
  · intro table calls s made none
    obtain ⟨name,_,_,filtered,_⟩ := Delete.build_ok.mp made
    rw [← Chain.delete_conditions,none] at filtered
    simp at filtered
  · intro ρ α built task e ran failed db
    exact ran.fails failed db

-- A DELETE of which one condition is refused, confirmed and run, and one that has a condition.
theorem no_call_dropped_at_users :
    (Delete.ofCalls "users" [.filter (.compare "1st" .eq (.int 1)),
      .filter (.compare "id" .eq (.int 2))]).build true =
        .error (.validation (.identifierStart "1st")) ∧
    (∀ db : Db Nat, (Delete.ofCalls "users" [.filter (.compare "1st" .eq (.int 1)),
      .filter (.compare "id" .eq (.int 2))]).execute true db =
        (.error (.validation (.identifierStart "1st")),db)) ∧
    ∃ s, (Delete.ofCalls "users" [.filter (.compare "id" .eq (.int 2))]).build false = .ok s ∧
      (Chain.delete "users" [.filter (.compare "id" .eq (.int 2))]).conditions ≠ [] ∧
      ∃ clauses head tail, (Chain.delete "users"
        [.filter (.compare "id" .eq (.int 2))]).conditions.map Condition.clause = clauses.map .ok ∧
          s = ofParts (head ++ whereParts clauses ++ tail) := by
  obtain ⟨first,shown,guarded,unchanged⟩ := no_call_dropped
  have named : ∀ s ∈ [Step.table "users"], ∀ g, ¬s.Refused g := by
    intro s member
    cases List.mem_singleton.mp member
    exact Step.not_refused.mpr rfl
  have refused : (Step.delete (.filter (.compare "1st" .eq (.int 1)))).Refused
      (.identifierStart "1st") := Step.refused_of_fault rfl
  have failed := first (.delete "users" [.filter (.compare "1st" .eq (.int 1)),
    .filter (.compare "id" .eq (.int 2))]) [.table "users"] _ [_] _ rfl named refused _ (.delete true)
  obtain ⟨s,made⟩ : ∃ s, (Delete.ofCalls "users"
    [.filter (.compare "id" .eq (.int 2))]).build false = .ok s := ⟨_,rfl⟩
  have builds : (Chain.delete "users" [.filter (.compare "id" .eq (.int 2))]).Builds (.ok s) :=
    made ▸ .delete false
  obtain ⟨_,clauses,head,tail,asked,_,laid⟩ := shown _ s builds
  exact ⟨failed,fun db => unchanged Nat UInt64 _ _ _ (.delete _ true) failed db,s,made,
    guarded "users" _ s made,clauses,head,tail,asked,laid⟩

end DataAccess.Query
