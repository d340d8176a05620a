import DataAccess.Load.Loader
import DataAccess.Proofs.Load.TableStatements
import DataAccess.Proofs.Session.Growth

-- Preparing a table. It takes replies and writes acts, as any task does, and it asks the database
-- for something whatever the options are, so that it succeeds only where connections are lent.
namespace DataAccess
open Backend

-- Tasks that only take replies and write acts.
def Grows (task : ExceptT ε (StateM (Db ρ)) α) : Prop :=
  ∀ db : Db ρ, ∃ acts taken, db.backend.Grown acts taken (task db).2.backend

-- Tasks that fail where no connection is lent.
def NeedsConnection (task : ExceptT ε (StateM (Db ρ)) α) : Prop :=
  ∀ (db : Db ρ) (a : α), (task db).1 = .ok a → db.backend.availability.refusal? = none

-- Tasks that give nothing but this.
def Yields (good : α → Prop) (task : ExceptT ε (StateM (Db ρ)) α) : Prop :=
  ∀ (db : Db ρ) (a : α), (task db).1 = .ok a → good a

namespace Grows

theorem still (result : Except ε α) : Grows (ρ := ρ) (fun db => (result,db)) :=
  fun db => ⟨[],0,.refl db.backend⟩

theorem log (event : Event) : Grows (ρ := ρ) (Db.log event) :=
  fun db => ⟨_,_,log_grown db.backend event⟩

theorem run (s : Statement) (wanted : Wanted) : Grows (ρ := ρ) (Db.run s wanted) := by
  intro db
  change ∃ acts taken, db.backend.Grown acts taken (db.backend.perform s wanted).2
  cases lent : db.backend.availability.refusal? with
  | some e => rw [perform_denied lent]; exact ⟨_,_,log_grown _ _⟩
  | none => exact ⟨_,_,(perform_ready lent s wanted).2⟩

theorem bind {first : ExceptT ε (StateM (Db ρ)) α} {next : α → ExceptT ε (StateM (Db ρ)) β}
    (head : Grows first) (tail : ∀ a, Grows (next a)) : Grows (first >>= next) := by
  intro db
  obtain ⟨acts,taken,grown⟩ := head db
  rw [bind_run]
  cases ran : first db with
  | mk result middle =>
    rw [ran] at grown
    cases result with
    | error e => exact ⟨acts,taken,grown⟩
    | ok a =>
      obtain ⟨more,later,further⟩ := tail a middle
      exact ⟨_,_,grown.trans further⟩

theorem execute (s : Statement) : Grows (ρ := ρ) (Db.execute s) :=
  (run s .count).bind fun outcome => still (.ok outcome.count)

theorem queryRows (s : Statement) : Grows (ρ := ρ) (Db.queryRows s) :=
  (run s .rows).bind fun outcome => still (.ok outcome.toRows)

end Grows

theorem bind_ok {first : ExceptT ε (StateM σ) α} {next : α → ExceptT ε (StateM σ) β} {s : σ}
    (succeeded : ((first >>= next) s).1 = .ok b) :
    ∃ a t, first s = (.ok a,t) ∧ (next a t).1 = .ok b := by
  rw [bind_run] at succeeded
  cases ran : first s with
  | mk result t =>
    rw [ran] at succeeded
    cases result with
    | error e => cases succeeded
    | ok a => exact ⟨a,t,rfl,succeeded⟩

theorem NeedsConnection.run (s : Statement) (wanted : Wanted) :
    NeedsConnection (ρ := ρ) (Db.run s wanted) := by
  intro db a succeeded
  change (db.backend.perform s wanted).1 = .ok a at succeeded
  cases lent : db.backend.availability.refusal? with
  | some e => rw [perform_denied lent] at succeeded; cases succeeded
  | none => rfl

theorem NeedsConnection.bind {first : ExceptT ε (StateM (Db ρ)) α}
    {next : α → ExceptT ε (StateM (Db ρ)) β} (head : NeedsConnection first) :
    NeedsConnection (first >>= next) := by
  intro db b succeeded
  obtain ⟨a,_,ran,_⟩ := bind_ok succeeded
  exact head db a (by rw [ran])

theorem Yields.bind {good : β → Prop} {first : ExceptT ε (StateM (Db ρ)) α}
    {next : α → ExceptT ε (StateM (Db ρ)) β} (tail : ∀ a, Yields good (next a)) :
    Yields good (first >>= next) := by
  intro db b succeeded
  obtain ⟨a,middle,_,later⟩ := bind_ok succeeded
  exact tail a middle b later

theorem Yields.still {good : α → Prop} (holds : good a) : Yields (ε := ε) (ρ := ρ) good (pure a) := by
  intro db b succeeded
  cases succeeded
  exact holds

namespace Load

theorem after_run (report : Report) (task : Task ρ α) (db : Db ρ) :
    report.after task db = ((task db).1.mapError report.stop,(task db).2) := by
  unfold Report.after
  rcases task db with ⟨result,next⟩
  cases result <;> rfl

theorem after_ok {report : Report} {task : Task ρ α} {db : Db ρ}
    (succeeded : (report.after task db).1 = .ok a) : (task db).1 = .ok a := by
  rw [after_run] at succeeded
  cases ran : (task db).1 with
  | error e => rw [ran] at succeeded; cases succeeded
  | ok b =>
    rw [ran] at succeeded
    exact congrArg Except.ok (Except.ok.inj succeeded)

theorem Grows.after {task : Task ρ α} (report : Report) (grows : Grows task) :
    Grows (report.after task) := by
  intro db
  rw [after_run]
  exact grows db

theorem makeTable_grows (options : Options) (table : Ident) (schema : TableSchema) :
    Grows (ρ := ρ) (makeTable options table schema) :=
  (Grows.log _).bind fun _ => (Grows.execute _).bind fun _ => (Grows.log _).bind fun _ =>
    Grows.still (.ok schema)

theorem prepareTable_grows (options : Options) (table : Ident) (schema : TableSchema) :
    Grows (ρ := ρ) (prepareTable options table schema) := by
  have making := makeTable_grows (ρ := ρ) options table schema
  have asking : Grows (ρ := ρ) (askExists table) :=
    (Grows.queryRows _).bind fun rows => Grows.still (existence rows)
  unfold prepareTable
  split
  · exact (Grows.execute _).bind fun _ => (Grows.log _).bind fun _ => making
  · refine asking.bind fun found => ?_
    cases found with
    | true =>
      exact (Grows.queryRows _).bind fun rows => (Grows.still (declaredColumns rows)).bind
        fun declared => (Grows.log _).bind fun _ => Grows.still (.ok (schema.adopt declared))
    | false =>
      cases options.createIfNotExists with
      | true => exact making
      | false => exact Grows.still (.error _)

theorem prepareTable_needs (options : Options) (table : Ident) (schema : TableSchema) :
    NeedsConnection (ρ := ρ) (prepareTable options table schema) := by
  unfold prepareTable
  split
  · exact NeedsConnection.bind (NeedsConnection.bind (.run _ _))
  · exact NeedsConnection.bind (NeedsConnection.bind (NeedsConnection.bind (.run _ _)))

theorem openTable_grows (options : Options) (table : Ident) (schema : TableSchema) :
    Grows (ρ := ρ) (openTable options table schema) := by
  have last := Grows.after (ρ := ρ) Report.empty (prepareTable_grows options table schema)
  unfold openTable
  split
  · exact (Grows.after Report.empty (.still (schema.identityColumn table))).bind fun _ => last
  · exact last

theorem openTable_needs (options : Options) (table : Ident) (schema : TableSchema) :
    NeedsConnection (ρ := ρ) (openTable options table schema) := by
  have last : NeedsConnection (ρ := ρ) (Report.empty.after (prepareTable options table schema)) :=
    fun db a succeeded => prepareTable_needs options table schema db a (after_ok succeeded)
  unfold openTable
  split
  · intro db a succeeded
    cases key : schema.identityColumn table with
    | error e => rw [key,bind_run] at succeeded; cases succeeded
    | ok name => rw [key,bind_run] at succeeded; exact last db a succeeded
  · exact last

theorem prepareTable_names (options : Options) (table : Ident) (schema : TableSchema) :
    Yields (ρ := ρ) (fun filled => filled.columnNames = schema.columnNames)
      (prepareTable options table schema) := by
  have making : Yields (ρ := ρ) (fun filled => filled.columnNames = schema.columnNames)
      (makeTable options table schema) :=
    .bind fun _ => .bind fun _ => .bind fun _ => .still rfl
  unfold prepareTable
  split
  · exact .bind fun _ => .bind fun _ => making
  · refine .bind fun found => ?_
    cases found with
    | true =>
      exact .bind fun _ => .bind fun declared => .bind fun _ =>
        .still (schema.adopt_names declared)
    | false =>
      cases options.createIfNotExists with
      | true => exact making
      | false =>
        intro db filled succeeded
        cases succeeded

theorem openTable_names (options : Options) (table : Ident) (schema : TableSchema) :
    Yields (ρ := ρ) (fun filled => filled.columnNames = schema.columnNames)
      (openTable options table schema) := by
  have last : Yields (ρ := ρ) (fun filled => filled.columnNames = schema.columnNames)
      (Report.empty.after (prepareTable options table schema)) :=
    fun db filled succeeded => prepareTable_names options table schema db filled (after_ok succeeded)
  unfold openTable
  split
  · exact .bind fun _ => last
  · exact last

end Load

end DataAccess
