import DataAccess.Proofs.Query.Erasure
import DataAccess.Proofs.Session.Growth
import DataAccess.Session.Execution

-- Chains of calls that differ in their values only. They build the same text for as many values or
-- fail alike, and when they are run where lending and replies are the same, they answer the same
-- and log the same. Values show in what is bound and nowhere else.
namespace DataAccess
open Backend

def Act.withoutValues : Act → Act
  | .send wanted sql params => .send wanted sql (nulls params)
  | act => act

def logged (acts : List Act) : List Event :=
  acts.filterMap fun
    | .log event => some event
    | _ => none

theorem logged_withoutValues (acts : List Act) : logged (acts.map Act.withoutValues) = logged acts := by
  induction acts with
  | nil => rfl
  | cons act acts ih =>
    unfold logged at ih ⊢
    rw [List.map_cons,List.filterMap_cons,List.filterMap_cons,ih]
    cases act <;> rfl

-- Databases on which nothing that was done before can tell two runs apart: past journals and
-- caches may differ.
structure Alike (db db' : Db ρ) : Prop where
  availability : db.backend.availability = db'.backend.availability
  replies : db.backend.replies = db'.backend.replies

-- What two runs write that differ in values only.
structure Parallel (db db' after after' : Db ρ) : Prop where
  grown : ∃ acts acts' taken, db.backend.Grown acts taken after.backend ∧
    db'.backend.Grown acts' taken after'.backend ∧
      acts.map Act.withoutValues = acts'.map Act.withoutValues

namespace Parallel

theorem refl (db db' : Db ρ) : Parallel db db' db db' := ⟨[],[],0,.refl _,.refl _,rfl⟩

theorem trans {db db' middle middle' after after' : Db ρ} (first : Parallel db db' middle middle')
    (second : Parallel middle middle' after after') : Parallel db db' after after' := by
  obtain ⟨acts,acts',n,one,one',same⟩ := first.grown
  obtain ⟨more,more',m,two,two',further⟩ := second.grown
  exact ⟨acts ++ more,acts' ++ more',n + m,one.trans two,one'.trans two',by
    rw [List.map_append,List.map_append,same,further]⟩

theorem alike {db db' after after' : Db ρ} (parallel : Parallel db db' after after')
    (start : Alike db db') : Alike after after' := by
  obtain ⟨acts,acts',n,one,one',_⟩ := parallel.grown
  constructor
  · rw [one.availability,one'.availability,start.availability]
  · rw [one.replies,one'.replies,start.replies]

end Parallel

-- Two tasks between which only values differ: wherever both are run, the results are one.
def Twins (first second : Task ρ α) : Prop := ∀ db db' : Db ρ, Alike db db' →
  (first db).1 = (second db').1 ∧ Parallel db db' (first db).2 (second db').2

namespace Twins

theorem pure (a : α) : Twins (ρ := ρ) (Pure.pure a) (Pure.pure a) :=
  fun db db' _ => ⟨rfl,.refl db db'⟩

theorem lift (tried : Except Error α) :
    Twins (ρ := ρ) (liftM tried : Task ρ α) (liftM tried : Task ρ α) :=
  fun db db' _ => ⟨rfl,.refl db db'⟩

theorem log (event : Event) : Twins (ρ := ρ) (Db.log event) (Db.log event) := fun db db' _ =>
  ⟨rfl,[.log event],[.log event],0,log_grown db.backend event,log_grown db'.backend event,rfl⟩

theorem bind {first second : Task ρ α} {next next' : α → Task ρ β} (head : Twins first second)
    (tail : ∀ a, Twins (next a) (next' a)) : Twins (first >>= next) (second >>= next') := by
  intro db db' alike
  obtain ⟨answer,parallel⟩ := head db db' alike
  rw [bind_run,bind_run]
  cases one : first db with
  | mk result middle =>
    cases other : second db' with
    | mk result' middle' =>
      rw [one,other] at answer parallel
      change result = result' at answer
      subst answer
      cases result with
      | error e => exact ⟨rfl,parallel⟩
      | ok a =>
        obtain ⟨same,further⟩ := tail a middle middle' (parallel.alike alike)
        exact ⟨same,parallel.trans further⟩

theorem exchange_withoutValues {s t : Statement} (same : s.withoutValues = t.withoutValues)
    (wanted : Wanted) (result : Except Error Outcome) :
    (exchange s wanted result).map Act.withoutValues =
      (exchange t wanted result).map Act.withoutValues := by
  obtain ⟨sql,size⟩ := Statement.withoutValues_eq.mp same
  have params : nulls s.params.toList = nulls t.params.toList := by
    simpa [Statement.withoutValues,nulls] using congrArg (·.params.toList) same
  have told : verdict s result = verdict t result := by
    cases result <;> simp only [verdict,sql,size]
  simp only [exchange,List.map_cons,List.map_nil,Act.withoutValues,sql,params,told]

theorem run {s t : Statement} (same : s.withoutValues = t.withoutValues) (wanted : Wanted) :
    Twins (ρ := ρ) (Db.run s wanted) (Db.run t wanted) := by
  intro db db' alike
  change (db.backend.perform s wanted).1 = (db'.backend.perform t wanted).1 ∧ Parallel db db'
    { db with backend := (db.backend.perform s wanted).2 }
    { db' with backend := (db'.backend.perform t wanted).2 }
  cases lent : db.backend.availability.refusal? with
  | some e =>
    have lent' : db'.backend.availability.refusal? = some e := by rw [← alike.availability,lent]
    obtain ⟨sql,_⟩ := Statement.withoutValues_eq.mp same
    rw [perform_denied lent,perform_denied lent',sql]
    exact ⟨rfl,_,_,0,log_grown _ _,log_grown _ _,rfl⟩
  | none =>
    have lent' : db'.backend.availability.refusal? = none := by rw [← alike.availability,lent]
    obtain ⟨answer,grown⟩ := perform_ready lent s wanted
    obtain ⟨answer',grown'⟩ := perform_ready lent' t wanted
    rw [← alike.replies] at answer' grown'
    exact ⟨answer.trans answer'.symm,_,_,1,grown,grown',exchange_withoutValues same wanted _⟩

section Statements

variable {s t : Statement} (same : s.withoutValues = t.withoutValues)

include same

theorem execute : Twins (ρ := ρ) (Db.execute s) (Db.execute t) :=
  (run same .count).bind fun outcome => pure outcome.count

theorem queryRows : Twins (ρ := ρ) (Db.queryRows s) (Db.queryRows t) :=
  (run same .rows).bind fun outcome => pure outcome.toRows

theorem queryAs (type : RecordType σ) : Twins (ρ := ρ) (Db.queryAs type s) (Db.queryAs type t) :=
  (queryRows same).bind fun rows => lift (type.mapRows rows)

end Statements

-- What is run of a statement once it is built.
theorem built {built built' : Except Error Statement}
    (same : built.map Statement.withoutValues = built'.map Statement.withoutValues)
    {next next' : Statement → Task ρ α}
    (tail : ∀ s t, s.withoutValues = t.withoutValues → Twins (next s) (next' t)) :
    Twins ((liftM built : Task ρ Statement) >>= next) ((liftM built' : Task ρ Statement) >>= next') := by
  cases built with
  | error e =>
    cases built' with
    | error e' =>
      cases same
      exact fun db db' _ => ⟨rfl,.refl db db'⟩
    | ok t => cases same
  | ok s =>
    cases built' with
    | error e => cases same
    | ok t => exact tail s t (Except.ok.inj same)

end Twins

namespace Query

-- What two chains build that are one but for the values in them, by each way of building.
inductive Paired : Except Error Statement → Except Error Statement → Prop where
  | select (same : calls.map Select.Call.withoutValues = calls'.map Select.Call.withoutValues) :
      Paired (Select.ofCalls shape calls).build (Select.ofCalls shape calls').build
  | count (same : calls.map Select.Call.withoutValues = calls'.map Select.Call.withoutValues) :
      Paired (Select.ofCalls shape calls).buildCount (Select.ofCalls shape calls').buildCount
  | update (same : calls.map Update.Call.withoutValues = calls'.map Update.Call.withoutValues) :
      Paired (Update.ofCalls table calls).build (Update.ofCalls table calls').build
  | delete (same : calls.map Delete.Call.withoutValues = calls'.map Delete.Call.withoutValues)
      (confirmed : Bool) :
      Paired ((Delete.ofCalls table calls).build confirmed)
        ((Delete.ofCalls table calls').build confirmed)
  | insert (same : calls.map Insert.Call.withoutValues = calls'.map Insert.Call.withoutValues) :
      Paired (Insert.ofCalls table calls).build (Insert.ofCalls table calls').build

-- Two such chains run the same way, past the cache.
inductive PairedRuns : {α : Type} → Task ρ α → Task ρ α → Prop where
  | fetchAll (same : calls.map Select.Call.withoutValues = calls'.map Select.Call.withoutValues)
      (type : RecordType σ) :
      PairedRuns ((Select.ofCalls shape calls).fetchAll type)
        ((Select.ofCalls shape calls').fetchAll type)
  | fetchRows (same : calls.map Select.Call.withoutValues = calls'.map Select.Call.withoutValues) :
      PairedRuns (Select.ofCalls shape calls).fetchRows (Select.ofCalls shape calls').fetchRows
  | first (same : calls.map Select.Call.withoutValues = calls'.map Select.Call.withoutValues)
      (type : RecordType σ) :
      PairedRuns ((Select.ofCalls shape calls).first type) ((Select.ofCalls shape calls').first type)
  | count (same : calls.map Select.Call.withoutValues = calls'.map Select.Call.withoutValues) :
      PairedRuns (Select.ofCalls shape calls).count (Select.ofCalls shape calls').count
  | update (same : calls.map Update.Call.withoutValues = calls'.map Update.Call.withoutValues) :
      PairedRuns (Update.ofCalls table calls).execute (Update.ofCalls table calls').execute
  | delete (same : calls.map Delete.Call.withoutValues = calls'.map Delete.Call.withoutValues)
      (confirmed : Bool) :
      PairedRuns ((Delete.ofCalls table calls).execute confirmed)
        ((Delete.ofCalls table calls').execute confirmed)
  | insert (same : calls.map Insert.Call.withoutValues = calls'.map Insert.Call.withoutValues) :
      PairedRuns (Insert.ofCalls table calls).execute (Insert.ofCalls table calls').execute

-- Builders, too, are one but for their values when the chains are.
section Builders

theorem select_erased (same : List.map Select.Call.withoutValues calls =
    List.map Select.Call.withoutValues calls') (shape : Shape) :
    (Select.ofCalls shape calls).withoutValues = (Select.ofCalls shape calls').withoutValues := by
  rw [Select.ofCalls_withoutValues,Select.ofCalls_withoutValues,same]

theorem update_erased (same : List.map Update.Call.withoutValues calls =
    List.map Update.Call.withoutValues calls') (table : String) :
    (Update.ofCalls table calls).withoutValues = (Update.ofCalls table calls').withoutValues := by
  rw [Update.ofCalls_withoutValues,Update.ofCalls_withoutValues,same]

theorem delete_erased (same : List.map Delete.Call.withoutValues calls =
    List.map Delete.Call.withoutValues calls') (table : String) :
    (Delete.ofCalls table calls).withoutValues = (Delete.ofCalls table calls').withoutValues := by
  rw [Delete.ofCalls_withoutValues,Delete.ofCalls_withoutValues,same]

end Builders

theorem Paired.erased (paired : Paired built built') :
    built.map Statement.withoutValues = built'.map Statement.withoutValues := by
  cases paired with
  | @select shape calls calls' same =>
    rw [← Select.build_withoutValues,← Select.build_withoutValues,select_erased same]
  | @count shape calls calls' same =>
    rw [← Select.buildCount_withoutValues,← Select.buildCount_withoutValues,select_erased same]
  | @update table calls calls' same =>
    rw [← Update.build_withoutValues,← Update.build_withoutValues,update_erased same]
  | @delete table calls calls' same confirmed =>
    rw [← Delete.build_withoutValues,← Delete.build_withoutValues,delete_erased same]
  | @insert table calls calls' same =>
    rw [← Insert.build_withoutValues,← Insert.build_withoutValues,Insert.ofCalls_withoutValues,
      Insert.ofCalls_withoutValues,same]

theorem Paired.both (paired : Paired built built') :
    (∃ e, built = .error e ∧ built' = .error e) ∨ ∃ s t, built = .ok s ∧ built' = .ok t ∧
      s.sql = t.sql ∧ s.params.size = t.params.size := by
  have erased := paired.erased
  cases built with
  | error e =>
    cases built' with
    | error e' =>
      cases erased
      exact .inl ⟨e,rfl,rfl⟩
    | ok t => cases erased
  | ok s =>
    cases built' with
    | error e => cases erased
    | ok t =>
      obtain ⟨sql,size⟩ := Statement.withoutValues_eq.mp (Except.ok.inj erased)
      exact .inr ⟨s,t,rfl,rfl,sql,size⟩

theorem PairedRuns.twins {run run' : Task ρ α} (paired : PairedRuns run run') : Twins run run' := by
  cases paired with
  | @fetchAll σ shape calls calls' same type =>
    exact Twins.built (Paired.select same).erased fun s t alike => .queryAs alike type
  | @fetchRows shape calls calls' same =>
    exact Twins.built (Paired.select same).erased fun s t alike => .queryRows alike
  | @first σ shape calls calls' same type =>
    -- the limit is one more call at the end of both chains
    have limited : (calls ++ [Select.Call.limit 1]).map Select.Call.withoutValues =
        (calls' ++ [Select.Call.limit 1]).map Select.Call.withoutValues := by
      rw [List.map_append,List.map_append,same]
    have last : ∀ calls, (Select.ofCalls shape calls).withLimit 1 =
        Select.ofCalls shape (calls ++ [Select.Call.limit 1]) := by
      intro calls
      rw [Select.ofCalls,Select.ofCalls,List.foldl_append]
      rfl
    unfold Select.first
    rw [last,last]
    exact (Twins.built (Paired.select limited).erased fun s t alike => .queryAs alike type).bind
      fun rows => .pure rows.head?
  | @count shape calls calls' same =>
    exact Twins.built (Paired.count same).erased fun s t alike =>
      (Twins.queryRows alike).bind fun rows => .lift (Select.countOf rows)
  | @update table calls calls' same =>
    have erased := update_erased same table
    have named := congrArg Update.table erased
    have guarded : (Update.ofCalls table calls).hasWhere = (Update.ofCalls table calls').hasWhere := by
      simpa [Update.hasWhere,Update.withoutValues] using congrArg Update.hasWhere erased
    refine Twins.built (Paired.update same).erased fun s t alike => ?_
    change Twins (if _ then _ else Db.execute s) (if _ then _ else Db.execute t)
    rw [guarded,show (Update.ofCalls table calls).table = _ from named]
    split
    · exact (Twins.log _).bind fun _ => .execute alike
    · exact .execute alike
  | @delete table calls calls' same confirmed =>
    have erased := delete_erased same table
    have named := congrArg Delete.table erased
    have limited := congrArg Delete.limit erased
    have guarded : (Delete.ofCalls table calls).hasWhere = (Delete.ofCalls table calls').hasWhere := by
      simpa [Delete.hasWhere,Delete.withoutValues] using congrArg Delete.hasWhere erased
    refine Twins.built (Paired.delete same confirmed).erased fun s t alike => ?_
    change Twins (if _ then _ else Db.execute s) (if _ then _ else Db.execute t)
    rw [guarded,show (Delete.ofCalls table calls).table = _ from named,
      show (Delete.ofCalls table calls).limit = _ from limited]
    split
    · exact (Twins.log _).bind fun _ => .execute alike
    · exact .execute alike
  | @insert table calls calls' same =>
    exact Twins.built (Paired.insert same).erased fun s t alike => .execute alike

-- Values have no part in whether a chain builds, in what its text is or in how it fails; nor, when
-- it is run, in what is answered and logged. What is sent differs in the bound values only.
theorem values_only_bound :
    (∀ built built', Paired built built' → (∃ e, built = .error e ∧ built' = .error e) ∨
      ∃ s t, built = .ok s ∧ built' = .ok t ∧ s.sql = t.sql ∧ s.params.size = t.params.size) ∧
    (∀ (ρ α : Type) (run run' : Task ρ α), PairedRuns run run' → ∀ db db' : Db ρ, Alike db db' →
      (run db).1 = (run' db').1 ∧ ∃ acts acts',
        (run db).2.backend.journal.toList = db.backend.journal.toList ++ acts ∧
        (run' db').2.backend.journal.toList = db'.backend.journal.toList ++ acts' ∧
        logged acts = logged acts' ∧ acts.map Act.withoutValues = acts'.map Act.withoutValues) := by
  refine ⟨fun built built' paired => paired.both,?_⟩
  intro ρ α run run' paired db db' alike
  obtain ⟨answer,parallel⟩ := paired.twins db db' alike
  obtain ⟨acts,acts',_,grown,grown',same⟩ := parallel.grown
  refine ⟨answer,acts,acts',grown.journal,grown'.journal,?_,same⟩
  rw [← logged_withoutValues acts,same,logged_withoutValues]

-- An UPDATE of every row to a text that looks like SQL, and one to NULL by a client that has
-- pinged before.
theorem values_only_bound_at_users :
    (∃ s t, (Update.ofCalls "users" [.set "name" (.text "'; DROP TABLE users; --")]).build = .ok s ∧
      (Update.ofCalls "users" [.set "name" .null]).build = .ok t ∧ s.sql = t.sql ∧
        s.params.size = t.params.size) ∧
    Alike (ρ := Nat) (.ofBackend (.start .ready [.affected 3]))
      (.ofBackend (Backend.start .ready [.rows [],.affected 3]).ping.2) ∧
    ((Update.ofCalls "users" [.set "name" (.text "'; DROP TABLE users; --")]).execute
      (ρ := Nat) (.ofBackend (.start .ready [.affected 3]))).1 =
    ((Update.ofCalls "users" [.set "name" .null]).execute
      (ρ := Nat) (.ofBackend (Backend.start .ready [.rows [],.affected 3]).ping.2)).1 := by
  obtain ⟨builds,runs⟩ := values_only_bound
  have alike : Alike (ρ := Nat) (.ofBackend (.start .ready [.affected 3]))
      (.ofBackend (Backend.start .ready [.rows [],.affected 3]).ping.2) := ⟨rfl,rfl⟩
  have paired : Paired
      (Update.ofCalls "users" [.set "name" (.text "'; DROP TABLE users; --")]).build
      (Update.ofCalls "users" [.set "name" .null]).build := .update rfl
  refine ⟨?_,alike,(runs Nat UInt64 _ _ (.update rfl) _ _ alike).1⟩
  rcases builds _ _ paired with ⟨e,failed,_⟩ | built
  · cases failed
  · exact built

end Query

end DataAccess
