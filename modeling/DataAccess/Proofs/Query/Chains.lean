import DataAccess.Proofs.Failure
import DataAccess.Proofs.Query.Comparisons
import DataAccess.Query.Delete
import DataAccess.Query.Insert
import DataAccess.Query.Select
import DataAccess.Query.Update

-- What a chain of calls leaves in a builder. Each call is looked at on its own: what it adds to the
-- conditions, and the fault it is rejected with. A builder holds what the accepted calls added, in
-- their order, and the fault of the first call that was rejected.
namespace DataAccess.Query

-- The fault that a builder would remember of an attempt.
def fault? : Except Error α → Option Fault
  | .ok _ => none
  | .error e => some e.asFault

theorem fault?_none {tried : Except Error α} : fault? tried = none ↔ ∃ a, tried = .ok a := by
  cases tried <;> simp [fault?]

section Folding

variable {step : σ → γ → σ}

theorem foldl_same {view : σ → β} (each : ∀ q c, view (step q c) = view q) (q : σ)
    (calls : List γ) : view (calls.foldl step q) = view q := by
  induction calls generalizing q with
  | nil => rfl
  | cons c calls ih => rw [List.foldl_cons,ih,each]

theorem foldl_gathers {view : σ → List β} {gain : γ → List β}
    (each : ∀ q c, view (step q c) = view q ++ gain c) (q : σ) (calls : List γ) :
    view (calls.foldl step q) = view q ++ calls.flatMap gain := by
  induction calls generalizing q with
  | nil => simp
  | cons c calls ih => rw [List.foldl_cons,ih,each,List.flatMap_cons,List.append_assoc]

theorem foldl_keeps_first {view : σ → Option β} {found : γ → Option β}
    (each : ∀ q c, view (step q c) = (view q).or (found c)) (q : σ) (calls : List γ) :
    view (calls.foldl step q) = (view q).or (calls.findSome? found) := by
  induction calls generalizing q with
  | nil => simp
  | cons c calls ih =>
    rw [List.foldl_cons,ih,each,Option.or_assoc,List.findSome?_cons]
    cases found c <;> rfl

-- The same for steps of which only those that are not rejected add what they should.
theorem foldl_gathers_accepted {rejected : σ → Rejection} (view : σ → List β) (gain : γ → List β)
    (each : ∀ q c, rejected (step q c) = none →
      rejected q = none ∧ view (step q c) = view q ++ gain c) (q : σ) (calls : List γ)
    (accepted : rejected (calls.foldl step q) = none) :
    rejected q = none ∧ view (calls.foldl step q) = view q ++ calls.flatMap gain := by
  induction calls generalizing q with
  | nil => exact ⟨accepted,by simp⟩
  | cons c calls ih =>
    rw [List.foldl_cons] at accepted ⊢
    obtain ⟨before,gathered⟩ := ih (step q c) accepted
    obtain ⟨first,gained⟩ := each q c before
    exact ⟨first,by rw [gathered,gained,List.flatMap_cons,List.append_assoc]⟩

end Folding

namespace Condition

def fault? (c : Condition) : Option Fault := Query.fault? c.clause

def values : Condition → List Value
  | compare _ _ v | compareBy _ _ v => [v]
  | among _ _ vs | amongBy _ _ vs => vs
  | given (.ok clause) => clause.values
  | given (.error _) => []

-- The clause of an accepted condition.
def clauses (c : Condition) : List Clause := c.clause.toOption.toList

theorem comparison_ok : comparison column op v = .ok k ↔
    ∃ i, Ident.parse column = .ok i ∧ op.takesList = false ∧ k = ⟨i,op,.single v⟩ := by
  unfold comparison Clause.compare
  cases Ident.parse column with
  | error e => simp [Except.bind]
  | ok i => cases op.takesList <;> simp [Except.bind,eq_comm]

theorem membership_ok : membership column op vs = .ok k ↔
    ∃ i, Ident.parse column = .ok i ∧ op.takesList = true ∧ vs ≠ [] ∧ k = ⟨i,op,.list vs⟩ := by
  unfold membership Clause.list
  cases Ident.parse column with
  | error e => simp [Except.bind]
  | ok i => cases op.takesList <;> cases vs <;> simp [Except.bind,eq_comm]

theorem clause_values {c : Condition} (accepted : c.clause = .ok k) : k.values = c.values := by
  cases c with
  | compare column op v =>
    obtain ⟨i,_,_,rfl⟩ := comparison_ok.mp accepted
    rfl
  | among column op vs =>
    obtain ⟨i,_,_,_,rfl⟩ := membership_ok.mp accepted
    rfl
  | compareBy column operator v =>
    obtain ⟨op,_,made⟩ := Failure.bind_eq_ok.mp accepted
    obtain ⟨i,_,_,rfl⟩ := comparison_ok.mp made
    rfl
  | amongBy column operator vs =>
    obtain ⟨op,_,made⟩ := Failure.bind_eq_ok.mp accepted
    obtain ⟨i,_,_,_,rfl⟩ := membership_ok.mp made
    rfl
  | given tried =>
    cases tried with
    | error e => cases accepted
    | ok k => cases accepted; rfl

-- When every condition was accepted there is one clause for each, in their order.
theorem clauses_of_accepted {conditions : List Condition}
    (accepted : ∀ c ∈ conditions, c.fault? = none) :
    conditions.map clause = (conditions.flatMap clauses).map .ok ∧
      (conditions.flatMap clauses).flatMap Clause.values = conditions.flatMap values := by
  induction conditions with
  | nil => exact ⟨rfl,rfl⟩
  | cons c conditions ih =>
    obtain ⟨k,made⟩ := fault?_none.mp (accepted c (by simp))
    obtain ⟨each,bound⟩ := ih fun c member => accepted c (by simp [member])
    have one : c.clauses = [k] := by simp [clauses,made,Except.toOption]
    constructor
    · simp [one,made,each]
    · simp [one,bound,clause_values made]

-- Where no call has a fault, no condition of a call has one.
theorem accepted_of_calls {conditions : γ → List Condition} {fault : γ → Option Fault}
    (own : ∀ call, ∀ condition ∈ conditions call, condition.fault? = fault call) {calls : List γ}
    (accepted : calls.findSome? fault = none) :
    ∀ condition ∈ calls.flatMap conditions, condition.fault? = none := by
  intro condition member
  obtain ⟨call,called,asked⟩ := List.mem_flatMap.mp member
  rw [own call condition asked]
  exact List.findSome?_eq_none_iff.mp accepted call called

end Condition

namespace Select

def Call.fault? : Call → Option Fault
  | .fromTable table => Query.fault? (Ident.parse table)
  | .columnList columns =>
    match Ident.parseAll columns with
    | .ok [] => some .emptyProjection
    | tried => Query.fault? tried
  | .filter condition => condition.fault?
  | .orderBy column _ => Query.fault? (Ident.parse column)
  | .limit _ | .offset _ => none

def Call.conditions : Call → List Condition
  | .filter condition => [condition]
  | _ => []

theorem Call.conditions_fault (c : Call) :
    ∀ condition ∈ c.conditions, condition.fault? = c.fault? := by
  cases c <;> simp [Call.conditions,Call.fault?]

theorem call_rejected (q : Select) (c : Call) : (q.call c).rejected = q.rejected.or c.fault? := by
  cases c with
  | fromTable table =>
    simp only [call,fromTable,Call.fault?]
    cases Ident.parse table <;> simp [reject,Rejection.add,fault?]
  | columnList columns =>
    simp only [call,columnList,Call.fault?]
    cases Ident.parseAll columns with
    | error e => rfl
    | ok is => cases is <;> simp [reject,Rejection.add,fault?,Error.asFault]
  | filter condition =>
    simp only [call,filter,Call.fault?,Condition.fault?]
    cases condition.clause <;> simp [reject,Rejection.add,fault?]
  | orderBy column order =>
    simp only [call,orderBy,Call.fault?]
    cases Ident.parse column <;> simp [reject,Rejection.add,fault?]
  | limit n => exact (Option.or_none).symm
  | offset n => exact (Option.or_none).symm

theorem call_conditions (q : Select) (c : Call) :
    (q.call c).conditions = q.conditions ++ c.conditions.flatMap Condition.clauses := by
  cases c with
  | fromTable table =>
    simp only [call,fromTable]
    cases Ident.parse table <;> simp [reject,Call.conditions]
  | columnList columns =>
    simp only [call,columnList]
    split <;> simp [reject,Call.conditions]
  | filter condition =>
    simp only [call,filter,Call.conditions,List.flatMap_singleton,Condition.clauses]
    cases condition.clause <;> simp [reject,Except.toOption]
  | orderBy column order =>
    simp only [call,orderBy]
    cases Ident.parse column <;> simp [reject,Call.conditions]
  | limit n => simp [call,withLimit,Call.conditions]
  | offset n => simp [call,withOffset,Call.conditions]

theorem ofCalls_rejected (shape : Shape) (calls : List Call) :
    (ofCalls shape calls).rejected = calls.findSome? Call.fault? :=
  foldl_keeps_first call_rejected (all shape) calls

theorem ofCalls_conditions (shape : Shape) (calls : List Call) :
    (ofCalls shape calls).conditions =
      (calls.flatMap Call.conditions).flatMap Condition.clauses := by
  rw [List.flatMap_assoc]
  exact foldl_gathers call_conditions (all shape) calls

end Select

namespace Update

-- The assignments that a call asks for, in its order.
def Call.entries : Call → List (String × Value)
  | .set column v => [(column,v)]
  | .setMany entries => entries
  | .filter _ => []

def Call.conditions : Call → List Condition
  | .filter condition => [condition]
  | _ => []

def entryFault? (entry : String × Value) : Option Fault := Query.fault? (Ident.parse entry.1)

def Call.fault? : Call → Option Fault
  | .filter condition => condition.fault?
  | c => c.entries.findSome? entryFault?

theorem Call.conditions_fault (c : Call) :
    ∀ condition ∈ c.conditions, condition.fault? = c.fault? := by
  cases c <;> simp [Call.conditions,Call.fault?]

def assign (assignments : Assignments) (entry : String × Value) : Assignments :=
  match Ident.parse entry.1 with
  | .ok column => assignments.set column entry.2
  | .error _ => assignments

-- The assignments that entries leave, one after the other.
def assigned (entries : List (String × Value)) : Assignments := entries.foldl assign []

theorem set_eq (q : Update) (column : String) (v : Value) : q.set column v =
    { q with
      assignments := assign q.assignments (column,v)
      rejected := q.rejected.or (entryFault? (column,v)) } := by
  unfold set assign entryFault?
  cases Ident.parse column <;> simp [fault?,reject,Rejection.add]

theorem setMany_eq (q : Update) (entries : List (String × Value)) : q.setMany entries =
    { q with
      assignments := entries.foldl assign q.assignments
      rejected := q.rejected.or (entries.findSome? entryFault?) } := by
  induction entries generalizing q with
  | nil => simp [setMany]
  | cons entry entries ih =>
    have rest := ih (q.set entry.1 entry.2)
    unfold setMany at rest ⊢
    rw [List.foldl_cons,rest,set_eq,List.foldl_cons,List.findSome?_cons,Option.or_assoc]
    cases entryFault? entry <;> rfl

theorem call_rejected (q : Update) (c : Call) : (q.call c).rejected = q.rejected.or c.fault? := by
  cases c with
  | set column v =>
    simp only [call,set_eq,Call.fault?,Call.entries,List.findSome?_singleton]
  | setMany entries => simp only [call,setMany_eq,Call.fault?,Call.entries]
  | filter condition =>
    simp only [call,filter,Call.fault?,Condition.fault?]
    cases condition.clause <;> simp [reject,Rejection.add,fault?]

theorem call_conditions (q : Update) (c : Call) :
    (q.call c).conditions = q.conditions ++ c.conditions.flatMap Condition.clauses := by
  cases c with
  | set column v => simp [call,set_eq,Call.conditions]
  | setMany entries => simp [call,setMany_eq,Call.conditions]
  | filter condition =>
    simp only [call,filter,Call.conditions,List.flatMap_singleton,Condition.clauses]
    cases condition.clause <;> simp [reject,Except.toOption]

theorem call_table (q : Update) (c : Call) : (q.call c).table = q.table := by
  cases c with
  | set column v => simp [call,set_eq]
  | setMany entries => simp [call,setMany_eq]
  | filter condition =>
    simp only [call,filter]
    cases condition.clause <;> rfl

theorem ofCalls_rejected (table : String) (calls : List Call) :
    (ofCalls table calls).rejected = calls.findSome? Call.fault? :=
  foldl_keeps_first call_rejected (ofTable table) calls

theorem ofCalls_conditions (table : String) (calls : List Call) :
    (ofCalls table calls).conditions =
      (calls.flatMap Call.conditions).flatMap Condition.clauses := by
  rw [List.flatMap_assoc]
  exact foldl_gathers call_conditions (ofTable table) calls

theorem ofCalls_table (table : String) (calls : List Call) :
    (ofCalls table calls).table = Ident.parse table :=
  foldl_same call_table (ofTable table) calls

theorem ofCalls_assignments (table : String) (calls : List Call) :
    (ofCalls table calls).assignments = assigned (calls.flatMap Call.entries) := by
  have each : ∀ (q : Update) (c : Call),
      (q.call c).assignments = c.entries.foldl assign q.assignments := by
    intro q c
    cases c with
    | set column v => simp [call,set_eq,Call.entries]
    | setMany entries => simp [call,setMany_eq,Call.entries]
    | filter condition =>
      simp only [call,filter,Call.entries]
      cases condition.clause <;> rfl
  have run : ∀ q : Update, (calls.foldl call q).assignments =
      (calls.flatMap Call.entries).foldl assign q.assignments := by
    intro q
    induction calls generalizing q with
    | nil => rfl
    | cons c calls ih => rw [List.foldl_cons,ih,each,List.flatMap_cons,List.foldl_append]
  exact run (ofTable table)

end Update

namespace Delete

def Call.conditions : Call → List Condition
  | .filter condition => [condition]
  | .limit _ => []

def Call.fault? : Call → Option Fault
  | .filter condition => condition.fault?
  | .limit _ => none

theorem Call.conditions_fault (c : Call) :
    ∀ condition ∈ c.conditions, condition.fault? = c.fault? := by
  cases c <;> simp [Call.conditions,Call.fault?]

theorem call_rejected (q : Delete) (c : Call) : (q.call c).rejected = q.rejected.or c.fault? := by
  cases c with
  | filter condition =>
    simp only [call,filter,Call.fault?,Condition.fault?]
    cases condition.clause <;> simp [reject,Rejection.add,fault?]
  | limit n => exact (Option.or_none).symm

theorem call_conditions (q : Delete) (c : Call) :
    (q.call c).conditions = q.conditions ++ c.conditions.flatMap Condition.clauses := by
  cases c with
  | filter condition =>
    simp only [call,filter,Call.conditions,List.flatMap_singleton,Condition.clauses]
    cases condition.clause <;> simp [reject,Except.toOption]
  | limit n => simp [call,withLimit,Call.conditions]

theorem call_table (q : Delete) (c : Call) : (q.call c).table = q.table := by
  cases c with
  | filter condition =>
    simp only [call,filter]
    cases condition.clause <;> rfl
  | limit n => rfl

theorem ofCalls_rejected (table : String) (calls : List Call) :
    (ofCalls table calls).rejected = calls.findSome? Call.fault? :=
  foldl_keeps_first call_rejected (ofTable table) calls

theorem ofCalls_conditions (table : String) (calls : List Call) :
    (ofCalls table calls).conditions =
      (calls.flatMap Call.conditions).flatMap Condition.clauses := by
  rw [List.flatMap_assoc]
  exact foldl_gathers call_conditions (ofTable table) calls

theorem ofCalls_table (table : String) (calls : List Call) :
    (ofCalls table calls).table = Ident.parse table :=
  foldl_same call_table (ofTable table) calls

end Delete

namespace Insert

def Call.rows : Call → List Row
  | .columnList _ => []
  | .values row => [row]
  | .records rows => rows

theorem reject_rejected (q : Insert) (e : Error) : (q.reject e).rejected ≠ none := by
  simp [reject,Rejection.add]

theorem values_accepted (q : Insert) (row : Row) (accepted : (q.values row).rejected = none) :
    q.rejected = none ∧ (q.values row).rows.toList = q.rows.toList ++ [row] := by
  unfold values at accepted ⊢
  split at accepted
  · exact absurd accepted (reject_rejected _ _)
  · rename_i fits
    rw [if_neg fits]
    exact ⟨accepted,by simp⟩

theorem call_accepted (q : Insert) (c : Call) (accepted : (q.call c).rejected = none) :
    q.rejected = none ∧ (q.call c).rows.toList = q.rows.toList ++ c.rows := by
  cases c with
  | columnList columns =>
    simp only [call,columnList] at accepted ⊢
    cases read : Ident.parseAll columns with
    | error e => exact absurd (by simpa [read] using accepted) (reject_rejected q e)
    | ok is => exact ⟨by simpa [read] using accepted,by simp [Call.rows]⟩
  | values row => exact values_accepted q row accepted
  | records rows =>
    have all := foldl_gathers_accepted (fun q : Insert => q.rows.toList) (fun row => [row])
      values_accepted q rows accepted
    rwa [List.flatMap_singleton'] at all

-- A builder that rejected nothing holds the rows of all its calls.
theorem ofCalls_rows (table : String) (calls : List Call)
    (accepted : (ofCalls table calls).rejected = none) :
    (ofCalls table calls).rows.toList = calls.flatMap Call.rows :=
  (foldl_gathers_accepted (fun q : Insert => q.rows.toList) Call.rows call_accepted (ofTable table)
    calls accepted).2

end Insert

end DataAccess.Query
