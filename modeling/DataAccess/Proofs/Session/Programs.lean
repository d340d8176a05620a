import DataAccess.Proofs.Load.Preparation

-- Tasks as programs. A program is the tree of what a task may do next: it logs, borrows a
-- connection for one errand and goes on with what came of it, or looks at the cache and changes it.
-- Run on a database, where connections are lent always or never, a program does what its task does;
-- the tree says besides what the task would do if each lending and each reply were chosen apart.
namespace DataAccess
open Backend

-- What a connection is borrowed for.
inductive Errand where
  | statement (s : Statement) (wanted : Wanted)
  | ping

namespace Errand

def wanted : Errand → Wanted
  | statement _ wanted => wanted
  | ping => .rows

def sql : Errand → String
  | statement s _ => s.sql
  | ping => "SELECT 1"

def params : Errand → List Value
  | statement s _ => s.params.toList
  | ping => []

-- What is logged where no connection is lent.
def denial (e : Error) : Errand → List Event
  | statement s _ => [.connectionDenied (QueryType.ofSql s.sql) e]
  | ping => []

-- What is logged of what came of a connection.
def verdict (result : Except Error Outcome) : Errand → List Event
  | statement s _ => [Backend.verdict s result]
  | ping => []

def exchange (errand : Errand) (result : Except Error Outcome) : List Act :=
  [.acquire,.send errand.wanted errand.sql errand.params,.release] ++
    (errand.verdict result).map Act.log

def perform (errand : Errand) (b : Backend) : Except Error Outcome × Backend :=
  match b.availability.refusal? with
  | some e => (.error e,{ b with journal := b.journal ++ (errand.denial e).map Act.log })
  | none =>
    let result := outcomeOf errand.wanted b.replies.head?
    (result,{ b with replies := b.replies.tail,journal := b.journal ++ errand.exchange result })

theorem perform_statement (b : Backend) (s : Statement) (wanted : Wanted) :
    b.perform s wanted = (statement s wanted).perform b := by
  unfold perform
  cases lent : b.availability.refusal? with
  | some e =>
    rw [perform_denied lent]
    simp [denial,Backend.log,record]
  | none =>
    have answered : ((b.record .acquire).send wanted s.sql s.params.toList).1 =
        outcomeOf wanted b.replies.head? := rfl
    simp only [Backend.perform,lent,Errand.wanted]
    rw [answered]
    cases outcomeOf wanted b.replies.head? with
    | error e =>
      simp [exchange,verdict,Backend.verdict,Backend.log,record,Backend.send,Errand.wanted,sql,params]
    | ok outcome =>
      simp [exchange,verdict,Backend.verdict,Backend.log,record,Backend.send,Errand.wanted,sql,params]

theorem perform_ping (b : Backend) : b.ping = ((ping.perform b).1.isOk,(ping.perform b).2) := by
  unfold perform Backend.ping
  cases lent : b.availability.refusal? with
  | some e => simp [denial,Except.isOk,Except.toBool]
  | none => simp [exchange,verdict,record,Backend.send,wanted,sql,params]

end Errand

inductive Program (ρ α : Type) where
  | done (a : α)
  | log (event : Event) (rest : Program ρ α)
  | borrow (errand : Errand) (next : Except Error Outcome → Program ρ α)
  | store (change : Cache.Store String (List ρ) → Cache.Store String (List ρ))
      (next : Cache.Store String (List ρ) → Program ρ α)

namespace Program

def run : Program ρ α → StateM (Db ρ) α
  | done a => fun db => (a,db)
  | log event rest => fun db => rest.run { db with backend := db.backend.log event }
  | borrow errand next => fun db =>
    let (result,backend) := errand.perform db.backend
    (next result).run { db with backend }
  | store change next => fun db => (next db.store).run { db with store := change db.store }

def bind : Program ρ α → (α → Program ρ β) → Program ρ β
  | done a,f => f a
  | log event rest,f => log event (rest.bind f)
  | borrow errand next,f => borrow errand fun result => (next result).bind f
  | store change next,f => store change fun found => (next found).bind f

theorem run_borrow (errand : Errand) (next : Except Error Outcome → Program ρ α) (db : Db ρ) :
    (borrow errand next).run db = (next (errand.perform db.backend).1).run
      { db with backend := (errand.perform db.backend).2 } := rfl

theorem run_bind (p : Program ρ α) (f : α → Program ρ β) (db : Db ρ) :
    (p.bind f).run db = (f (p.run db).1).run (p.run db).2 := by
  induction p generalizing db with
  | done a => rfl
  | log event rest ih => exact ih _
  | borrow errand next ih => exact ih _ _
  | store change next ih => exact ih _ _

-- Programs that borrow nothing any more and come to a good end.
def Ends (good : α → Prop) : Program ρ α → Prop
  | done a => good a
  | log _ rest => rest.Ends good
  | borrow _ _ => False
  | store _ next => ∀ found, (next found).Ends good

-- Programs that end with the first errand that fails, and tell its error.
def Passes (tells : Error → α → Prop) : Program ρ α → Prop
  | done _ => True
  | log _ rest => rest.Passes tells
  | borrow _ next => (∀ outcome, (next (.ok outcome)).Passes tells) ∧
      ∀ e, (next (.error e)).Ends (tells e)
  | store _ next => ∀ found, (next found).Passes tells

section Binding

variable {p : Program ρ α} {f : α → Program ρ β}

theorem Ends.bind {good : α → Prop} {fine : β → Prop} (ends : p.Ends good)
    (further : ∀ a, good a → (f a).Ends fine) : (p.bind f).Ends fine := by
  induction p with
  | done a => exact further a ends
  | log event rest ih => exact ih ends
  | borrow errand next ih => exact ends.elim
  | store change next ih => exact fun found => ih found (ends found)

theorem Passes.bind {tells : Error → α → Prop} {shows : Error → β → Prop} (passes : p.Passes tells)
    (further : ∀ a, (f a).Passes shows) (told : ∀ e a, tells e a → (f a).Ends (shows e)) :
    (p.bind f).Passes shows := by
  induction p with
  | done a => exact further a
  | log event rest ih => exact ih passes
  | borrow errand next ih =>
    exact ⟨fun outcome => ih _ (passes.1 outcome),fun e => (passes.2 e).bind (told e)⟩
  | store change next ih => exact fun found => ih found (passes found)

end Binding

end Program

-- A task that fails fails with an error that is or has the one to be told.
def Fails (told : ε → Error) (e : Error) (answer : Except ε α) : Prop :=
  ∃ x, answer = .error x ∧ told x = e

-- A task with the program that runs as it does.
structure Programmed (tells : Error → Except ε α → Prop) (task : ExceptT ε (StateM (Db ρ)) α) where
  program : Program ρ (Except ε α)
  runs : ∀ db, task db = program.run db
  passes : program.Passes tells

namespace Programmed

variable {told : ε → Error}

def still (result : Except ε α) : Programmed (ρ := ρ) (Fails told) (fun db => (result,db)) where
  program := .done result
  runs _ := rfl
  passes := trivial

def log (event : Event) : Programmed (ρ := ρ) (Fails id) (Db.log event) where
  program := .log event (.done (.ok ()))
  runs _ := rfl
  passes := trivial

def run (s : Statement) (wanted : Wanted) : Programmed (ρ := ρ) (Fails id) (Db.run s wanted) where
  program := .borrow (.statement s wanted) .done
  runs db := by
    change ((db.backend.perform s wanted).1,{ db with backend := (db.backend.perform s wanted).2 }) = _
    rw [Errand.perform_statement]
    rfl
  passes := ⟨fun _ => trivial,fun e => ⟨e,rfl,rfl⟩⟩

-- A task and what comes after it, if it does not fail.
def bind {first : ExceptT ε (StateM (Db ρ)) α} {next : α → ExceptT ε (StateM (Db ρ)) β}
    (head : Programmed (Fails told) first) (tail : ∀ a, Programmed (Fails told) (next a)) :
    Programmed (Fails told) (first >>= next) where
  program := head.program.bind fun
    | .ok a => (tail a).program
    | .error x => .done (.error x)
  runs db := by
    rw [bind_run,Program.run_bind,head.runs]
    rcases head.program.run db with ⟨result,middle⟩
    cases result with
    | ok a => exact (tail a).runs middle
    | error x => rfl
  passes := by
    refine head.passes.bind ?_ ?_
    · intro result
      cases result with
      | ok a => exact (tail a).passes
      | error x => trivial
    · rintro e _ ⟨x,rfl,same⟩
      exact ⟨x,rfl,same⟩

def ite [Decidable c] {first second : ExceptT ε (StateM (Db ρ)) α} {tells : Error → Except ε α → Prop}
    (yes : Programmed tells first) (no : Programmed tells second) :
    Programmed tells (if c then first else second) where
  program := if c then yes.program else no.program
  runs db := by
    split
    · exact yes.runs db
    · exact no.runs db
  passes := by
    split
    · exact yes.passes
    · exact no.passes

-- A task that reports an error and fails with it all the same.
def reporting {task : Task ρ α} (programmed : Programmed (Fails id) task) (event : Error → Event) :
    Programmed (Fails id) (tryCatch task fun e => do Db.log (event e); throw e) where
  program := programmed.program.bind fun
    | .ok a => .done (.ok a)
    | .error e => .log (event e) (.done (.error e))
  runs db := by
    rw [catch_run,Program.run_bind,programmed.runs]
    rcases programmed.program.run db with ⟨result,middle⟩
    cases result <;> rfl
  passes := by
    refine programmed.passes.bind ?_ ?_
    · intro result
      cases result <;> trivial
    · rintro e _ ⟨x,rfl,same⟩
      exact ⟨x,rfl,same⟩

-- A task whose error stops a load.
def after {task : Task ρ α} (report : Load.Report) (programmed : Programmed (Fails id) task) :
    Programmed (Fails Load.Stopped.cause) (report.after task) where
  program := programmed.program.bind fun result => .done (result.mapError report.stop)
  runs db := by
    rw [Load.after_run,Program.run_bind,programmed.runs]
    rfl
  passes := by
    refine programmed.passes.bind (fun _ => trivial) ?_
    rintro e _ ⟨x,rfl,rfl⟩
    exact ⟨report.stop x,rfl,rfl⟩

end Programmed

end DataAccess
