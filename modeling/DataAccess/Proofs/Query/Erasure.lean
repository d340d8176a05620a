import DataAccess.Query.Delete
import DataAccess.Query.Insert
import DataAccess.Query.Select
import DataAccess.Query.Update

-- Chains of calls with every value erased to NULL. Two chains that erase to one differ in nothing
-- but their values. Erasing can be done before a builder is used or after it, so that what is built
-- differs in nothing but the values it binds.
namespace DataAccess

-- Erasing can be moved over a fold when it can be moved over each step.
theorem foldl_erased {step : σ → γ → σ} (erase : σ → σ) (eraseCall : γ → γ)
    (each : ∀ q c, erase (step q c) = step (erase q) (eraseCall c)) (q : σ) (calls : List γ) :
    erase (calls.foldl step q) = (calls.map eraseCall).foldl step (erase q) := by
  induction calls generalizing q with
  | nil => rfl
  | cons c calls ih => rw [List.foldl_cons,ih,each,List.map_cons,List.foldl_cons]

def nulls (vs : List Value) : List Value := vs.map fun _ => .null

namespace Statement

def withoutValues (s : Statement) : Statement := ⟨s.sql,s.params.map fun _ => .null⟩

theorem withoutValues_eq {s t : Statement} :
    s.withoutValues = t.withoutValues ↔ s.sql = t.sql ∧ s.params.size = t.params.size := by
  have sizes : (s.params.map fun _ => Value.null) = (t.params.map fun _ => Value.null) ↔
      s.params.size = t.params.size := by
    constructor
    · intro same
      simpa using congrArg Array.size same
    · intro same
      refine Array.ext (by simpa using same) fun i _ _ => ?_
      rw [Array.getElem_map,Array.getElem_map]
  rw [withoutValues,withoutValues,mk.injEq,sizes]

theorem ofText_withoutValues (text : String) : (ofText text).withoutValues = ofText text := by
  simp [ofText,withoutValues]

theorem push_withoutValues (s : Statement) (text : String) :
    (s.push text).withoutValues = s.withoutValues.push text := rfl

theorem pushIdent_withoutValues (s : Statement) (i : Ident) :
    (s.pushIdent i).withoutValues = s.withoutValues.pushIdent i := rfl

theorem bind_withoutValues (s : Statement) (v : Value) :
    (s.bind v).withoutValues = s.withoutValues.bind .null := by
  simp [bind,withoutValues]

theorem pushIdents_withoutValues (s : Statement) (is : List Ident) :
    (s.pushIdents is).withoutValues = s.withoutValues.pushIdents is := by
  cases is with
  | nil => rfl
  | cons i is =>
    have each : ∀ (s : Statement) (i : Ident), ((s.push ", ").pushIdent i).withoutValues =
        (s.withoutValues.push ", ").pushIdent i := fun _ _ => rfl
    have moved := foldl_erased withoutValues id each (s.pushIdent i) is
    rw [List.map_id] at moved
    exact moved

theorem bindList_withoutValues (s : Statement) (vs : List Value) :
    (s.bindList vs).withoutValues = s.withoutValues.bindList (nulls vs) := by
  cases vs with
  | nil => rfl
  | cons v vs =>
    have each : ∀ (s : Statement) (v : Value),
        ((s.push ", ").bind v).withoutValues = (s.withoutValues.push ", ").bind .null :=
      fun s v => bind_withoutValues (s.push ", ") v
    have moved := foldl_erased withoutValues (fun _ => .null) each (s.bind v) vs
    rw [bind_withoutValues] at moved
    exact moved

end Statement

namespace Clause

def withoutValues (c : Clause) : Clause :=
  { c with
    operand :=
      match c.operand with
      | .single _ => .single .null
      | .list vs => .list (nulls vs) }

theorem appendTo_withoutValues (s : Statement) (c : Clause) :
    (c.appendTo s).withoutValues = c.withoutValues.appendTo s.withoutValues := by
  unfold appendTo withoutValues
  cases c.operand with
  | single v => exact Statement.bind_withoutValues _ v
  | list vs => rw [Statement.push_withoutValues,Statement.bindList_withoutValues]; rfl

theorem pushWhere_withoutValues (s : Statement) (cs : List Clause) :
    (s.pushWhere cs).withoutValues = s.withoutValues.pushWhere (cs.map withoutValues) := by
  cases cs with
  | nil => rfl
  | cons c cs =>
    have each : ∀ (s : Statement) (c : Clause), (c.appendTo (s.push " AND ")).withoutValues =
        c.withoutValues.appendTo (s.withoutValues.push " AND ") :=
      fun s c => appendTo_withoutValues (s.push " AND ") c
    have moved := foldl_erased Statement.withoutValues withoutValues each
      (c.appendTo (s.push " WHERE ")) cs
    rw [appendTo_withoutValues] at moved
    exact moved

end Clause

namespace Assignments

def withoutValues (as : Assignments) : Assignments := as.map fun a => (a.1,.null)

theorem set_withoutValues (column : Ident) (v : Value) (as : Assignments) :
    (set column v as).withoutValues = set column .null as.withoutValues := by
  induction as with
  | nil => rfl
  | cons a rest ih =>
    obtain ⟨c,old⟩ := a
    change (if c = column then (c,v) :: rest else (c,old) :: set column v rest).map _ =
      if c = column then (c,.null) :: withoutValues rest
        else (c,.null) :: set column .null (withoutValues rest)
    by_cases same : c = column
    · rw [if_pos same,if_pos same]
      rfl
    · rw [if_neg same,if_neg same,← ih]
      rfl

theorem appendTo_withoutValues (s : Statement) (as : Assignments) :
    (as.appendTo s).withoutValues = as.withoutValues.appendTo s.withoutValues := by
  cases as with
  | nil => rfl
  | cons a rest =>
    have each : ∀ (s : Statement) (a : Ident × Value),
        (((s.push ", ").pushIdent a.1 |>.push " = ").bind a.2).withoutValues =
          ((s.withoutValues.push ", ").pushIdent a.1 |>.push " = ").bind .null :=
      fun s a => Statement.bind_withoutValues _ a.2
    have moved := foldl_erased Statement.withoutValues (fun a : Ident × Value => (a.1,.null)) each
      (((s.push " SET ").pushIdent a.1 |>.push " = ").bind a.2) rest
    rw [Statement.bind_withoutValues] at moved
    exact moved

end Assignments

namespace Query

namespace Condition

def withoutValues : Condition → Condition
  | compare column op _ => .compare column op .null
  | among column op vs => .among column op (nulls vs)
  | compareBy column operator _ => .compareBy column operator .null
  | amongBy column operator vs => .amongBy column operator (nulls vs)
  | given (.ok clause) => .given (.ok clause.withoutValues)
  | given (.error e) => .given (.error e)

theorem comparison_withoutValues (column : String) (op : Operator) (v : Value) :
    comparison column op .null = (comparison column op v).map Clause.withoutValues := by
  unfold comparison Clause.compare
  cases Ident.parse column with
  | error e => rfl
  | ok i => cases op.takesList <;> rfl

theorem membership_withoutValues (column : String) (op : Operator) (vs : List Value) :
    membership column op (nulls vs) = (membership column op vs).map Clause.withoutValues := by
  unfold membership Clause.list
  cases Ident.parse column with
  | error e => rfl
  | ok i => cases op.takesList <;> cases vs <;> rfl

theorem clause_withoutValues (c : Condition) :
    c.withoutValues.clause = c.clause.map Clause.withoutValues := by
  cases c with
  | compare column op v => exact comparison_withoutValues column op v
  | among column op vs => exact membership_withoutValues column op vs
  | compareBy column operator v =>
    simp only [withoutValues,clause]
    cases Operator.parse operator with
    | error e => rfl
    | ok op => exact comparison_withoutValues column op v
  | amongBy column operator vs =>
    simp only [withoutValues,clause]
    cases Operator.parse operator with
    | error e => rfl
    | ok op => exact membership_withoutValues column op vs
  | given tried => cases tried <;> rfl

end Condition

namespace Select

def withoutValues (q : Select) : Select :=
  { q with conditions := q.conditions.map Clause.withoutValues }

def Call.withoutValues : Call → Call
  | .filter condition => .filter condition.withoutValues
  | c => c

theorem call_withoutValues (q : Select) (c : Call) :
    (q.call c).withoutValues = q.withoutValues.call c.withoutValues := by
  cases c with
  | fromTable table =>
    simp only [call,fromTable,Call.withoutValues]
    cases Ident.parse table <;> rfl
  | columnList columns =>
    simp only [call,columnList,Call.withoutValues]
    cases Ident.parseAll columns with
    | error e => rfl
    | ok is => cases is <;> rfl
  | filter condition =>
    simp only [call,filter,Call.withoutValues,Condition.clause_withoutValues]
    cases condition.clause with
    | error e => rfl
    | ok clause => simp [withoutValues,Except.map]
  | orderBy column order =>
    simp only [call,orderBy,Call.withoutValues]
    cases Ident.parse column <;> rfl
  | limit n => rfl
  | offset n => rfl

theorem ofCalls_withoutValues (shape : Shape) (calls : List Call) :
    (ofCalls shape calls).withoutValues = ofCalls shape (calls.map Call.withoutValues) :=
  foldl_erased withoutValues Call.withoutValues call_withoutValues (all shape) calls

theorem pushOrder_withoutValues (s : Statement) (order : Option (Ident × Order)) :
    (pushOrder s order).withoutValues = pushOrder s.withoutValues order := by
  cases order <;> rfl

theorem pushCount_withoutValues (s : Statement) (keyword : String) (n : Option UInt64) :
    (pushCount s keyword n).withoutValues = pushCount s.withoutValues keyword n := by
  cases n <;> rfl

theorem build_withoutValues (q : Select) :
    q.withoutValues.build = q.build.map Statement.withoutValues := by
  have projected : q.withoutValues.projection = q.projection := rfl
  have sourced : q.withoutValues.source = q.source := rfl
  unfold build
  rw [projected,sourced]
  change (q.rejected.check >>= _) = _
  cases q.rejected.check with
  | error e => rfl
  | ok u =>
    cases q.projection with
    | error e => rfl
    | ok columns =>
      cases q.source with
      | error e => rfl
      | ok table =>
        refine congrArg Except.ok (Eq.symm ?_)
        rw [pushCount_withoutValues,pushCount_withoutValues,pushOrder_withoutValues,
          Clause.pushWhere_withoutValues,Statement.pushIdent_withoutValues,
          Statement.push_withoutValues,Statement.pushIdents_withoutValues,
          Statement.ofText_withoutValues]
        rfl

theorem buildCount_withoutValues (q : Select) :
    q.withoutValues.buildCount = q.buildCount.map Statement.withoutValues := by
  have sourced : q.withoutValues.source = q.source := rfl
  unfold buildCount
  rw [sourced]
  change (q.rejected.check >>= _) = _
  cases q.rejected.check with
  | error e => rfl
  | ok u =>
    cases q.source with
    | error e => rfl
    | ok table =>
      refine congrArg Except.ok (Eq.symm ?_)
      rw [Clause.pushWhere_withoutValues,Statement.pushIdent_withoutValues,
        Statement.ofText_withoutValues]
      rfl

end Select

namespace Update

def withoutValues (q : Update) : Update :=
  { q with
    assignments := q.assignments.withoutValues
    conditions := q.conditions.map Clause.withoutValues }

def Call.withoutValues : Call → Call
  | .set column _ => .set column .null
  | .setMany entries => .setMany (entries.map fun entry => (entry.1,.null))
  | .filter condition => .filter condition.withoutValues

theorem set_withoutValues (q : Update) (column : String) (v : Value) :
    (q.set column v).withoutValues = q.withoutValues.set column .null := by
  unfold set
  cases Ident.parse column with
  | error e => rfl
  | ok i => simp [withoutValues,Assignments.set_withoutValues]

theorem call_withoutValues (q : Update) (c : Call) :
    (q.call c).withoutValues = q.withoutValues.call c.withoutValues := by
  cases c with
  | set column v => exact set_withoutValues q column v
  | setMany entries =>
    exact foldl_erased withoutValues (fun entry : String × Value => (entry.1,.null))
      (fun q entry => set_withoutValues q entry.1 entry.2) q entries
  | filter condition =>
    simp only [call,filter,Call.withoutValues,Condition.clause_withoutValues]
    cases condition.clause with
    | error e => rfl
    | ok clause => simp [withoutValues,Except.map]

theorem ofCalls_withoutValues (table : String) (calls : List Call) :
    (ofCalls table calls).withoutValues = ofCalls table (calls.map Call.withoutValues) :=
  foldl_erased withoutValues Call.withoutValues call_withoutValues (ofTable table) calls

theorem build_withoutValues (q : Update) :
    q.withoutValues.build = q.build.map Statement.withoutValues := by
  have unset : q.withoutValues.assignments.isEmpty = q.assignments.isEmpty := List.isEmpty_map
  unfold build
  rw [unset]
  change (q.table >>= _) = _
  cases q.table with
  | error e => rfl
  | ok table =>
    change (q.rejected.check >>= _) = _
    cases q.rejected.check with
    | error e => rfl
    | ok u =>
      change (if _ then _ else _) = Except.map _ (if _ then _ else _)
      split
      · rfl
      · refine congrArg Except.ok (Eq.symm ?_)
        rw [Clause.pushWhere_withoutValues,Assignments.appendTo_withoutValues,
          Statement.pushIdent_withoutValues,Statement.ofText_withoutValues]
        rfl

end Update

namespace Delete

def withoutValues (q : Delete) : Delete :=
  { q with conditions := q.conditions.map Clause.withoutValues }

def Call.withoutValues : Call → Call
  | .filter condition => .filter condition.withoutValues
  | .limit n => .limit n

theorem call_withoutValues (q : Delete) (c : Call) :
    (q.call c).withoutValues = q.withoutValues.call c.withoutValues := by
  cases c with
  | filter condition =>
    simp only [call,filter,Call.withoutValues,Condition.clause_withoutValues]
    cases condition.clause with
    | error e => rfl
    | ok clause => simp [withoutValues,Except.map]
  | limit n => rfl

theorem ofCalls_withoutValues (table : String) (calls : List Call) :
    (ofCalls table calls).withoutValues = ofCalls table (calls.map Call.withoutValues) :=
  foldl_erased withoutValues Call.withoutValues call_withoutValues (ofTable table) calls

theorem hasWhere_withoutValues (q : Delete) : q.withoutValues.hasWhere = q.hasWhere := by
  simp [hasWhere,withoutValues]

theorem build_withoutValues (q : Delete) (confirmed : Bool) :
    q.withoutValues.build confirmed = (q.build confirmed).map Statement.withoutValues := by
  have limited : q.withoutValues.limit = q.limit := rfl
  unfold build
  rw [hasWhere_withoutValues,limited]
  change (q.table >>= _) = _
  cases q.table with
  | error e => rfl
  | ok table =>
    change (q.rejected.check >>= _) = _
    cases q.rejected.check with
    | error e => rfl
    | ok u =>
      change (if _ then _ else _) = Except.map _ (if _ then _ else _)
      split
      · rfl
      · cases q.limit with
        | none =>
          refine congrArg Except.ok (Eq.symm ?_)
          rw [Clause.pushWhere_withoutValues,Statement.pushIdent_withoutValues,
            Statement.ofText_withoutValues]
          rfl
        | some n =>
          refine congrArg Except.ok (Eq.symm ?_)
          rw [Statement.push_withoutValues,Statement.push_withoutValues,
            Statement.push_withoutValues,Clause.pushWhere_withoutValues,
            Statement.pushIdent_withoutValues,Statement.push_withoutValues,
            Statement.pushIdent_withoutValues,Statement.ofText_withoutValues]
          rfl

end Delete

namespace Insert

def withoutValues (q : Insert) : Insert := { q with rows := q.rows.map nulls }

def Call.withoutValues : Call → Call
  | .columnList columns => .columnList columns
  | .values row => .values (nulls row)
  | .records rows => .records (rows.map nulls)

theorem values_withoutValues (q : Insert) (row : Row) :
    (q.values row).withoutValues = q.withoutValues.values (nulls row) := by
  have long : (nulls row).length = row.length := List.length_map _
  have many : q.withoutValues.rows.size = q.rows.size := Array.size_map
  have listed : q.withoutValues.columns = q.columns := rfl
  unfold values
  rw [long,many,listed]
  by_cases wrong : row.length ≠ q.columns.length
  · rw [if_pos wrong,if_pos wrong]
    rfl
  · rw [if_neg wrong,if_neg wrong]
    simp [withoutValues]

theorem call_withoutValues (q : Insert) (c : Call) :
    (q.call c).withoutValues = q.withoutValues.call c.withoutValues := by
  cases c with
  | columnList columns =>
    simp only [call,columnList,Call.withoutValues]
    cases Ident.parseAll columns <;> rfl
  | values row => exact values_withoutValues q row
  | records rows => exact foldl_erased withoutValues nulls values_withoutValues q rows

theorem ofCalls_withoutValues (table : String) (calls : List Call) :
    (ofCalls table calls).withoutValues = ofCalls table (calls.map Call.withoutValues) := by
  have fresh : (ofTable table).withoutValues = ofTable table := by simp [withoutValues,ofTable]
  rw [ofCalls,foldl_erased withoutValues Call.withoutValues call_withoutValues,fresh,ofCalls]

theorem pushRow_withoutValues (s : Statement) (row : Row) :
    (pushRow s row).withoutValues = pushRow s.withoutValues (nulls row) := by
  unfold pushRow
  rw [Statement.push_withoutValues,Statement.bindList_withoutValues]
  rfl

theorem pushRows_withoutValues (s : Statement) (rows : List Row) :
    (pushRows s rows).withoutValues = pushRows s.withoutValues (rows.map nulls) := by
  cases rows with
  | nil => rfl
  | cons row rows =>
    have each : ∀ (s : Statement) (row : Row), (pushRow (s.push ", ") row).withoutValues =
        pushRow (s.withoutValues.push ", ") (nulls row) :=
      fun s row => pushRow_withoutValues (s.push ", ") row
    have moved := foldl_erased Statement.withoutValues nulls each (pushRow s row) rows
    rw [pushRow_withoutValues] at moved
    exact moved

theorem build_withoutValues (q : Insert) :
    q.withoutValues.build = q.build.map Statement.withoutValues := by
  have many : q.withoutValues.rows.size = q.rows.size := Array.size_map
  have empty : q.withoutValues.rows.isEmpty = q.rows.isEmpty := by
    simp [Array.isEmpty,many]
  have filled : q.withoutValues.rows.toList = q.rows.toList.map nulls := Array.toList_map
  have listed : q.withoutValues.columns = q.columns := rfl
  unfold build
  rw [many,empty,filled,listed]
  change (q.table >>= _) = _
  cases q.table with
  | error e => rfl
  | ok table =>
    change (q.rejected.check >>= _) = _
    cases q.rejected.check with
    | error e => rfl
    | ok u =>
      change (if _ then _ else if _ then _ else if _ then _ else _) =
        Except.map _ (if _ then _ else if _ then _ else if _ then _ else _)
      by_cases unnamed : q.columns.isEmpty = true
      · rw [if_pos unnamed,if_pos unnamed]
        rfl
      · rw [if_neg unnamed,if_neg unnamed]
        by_cases none : q.rows.isEmpty = true
        · rw [if_pos none,if_pos none]
          rfl
        · rw [if_neg none,if_neg none]
          by_cases exceeds : maxParameters < q.rows.size * q.columns.length
          · rw [if_pos exceeds,if_pos exceeds]
            rfl
          · rw [if_neg exceeds,if_neg exceeds]
            refine congrArg Except.ok (Eq.symm ?_)
            rw [pushRows_withoutValues,Statement.push_withoutValues,
              Statement.pushIdents_withoutValues,Statement.push_withoutValues,
              Statement.pushIdent_withoutValues,Statement.ofText_withoutValues]

end Insert

end Query

end DataAccess
