import DataAccess.Proofs.Load.Course

-- What making a table ready asks of the database. It is a table dropped and made again, or one that
-- is looked for and then taken as it is, made, or missed; whatever is refused on the way ends it.
namespace DataAccess
open Backend

-- Acts that ask for this in this order, each over a connection that is given back.
structure Asks (acts : List Act) (asked : List (Wanted × Statement)) : Prop where
  order : acts.filterMap Act.sent? = asked.map fun a => (a.1,a.2.sql,a.2.params.toList)
  acquired : acts.count .acquire = asked.length
  released : acts.count .release = asked.length

namespace Asks

theorem logged (event : Event) : Asks [.log event] [] := ⟨rfl,rfl,rfl⟩

theorem exchanged (s : Statement) (wanted : Wanted) (result : Except Error Outcome) :
    Asks (exchange s wanted result) [(wanted,s)] := ⟨rfl,rfl,rfl⟩

theorem append (first : Asks acts asked) (second : Asks more others) :
    Asks (acts ++ more) (asked ++ others) := by
  constructor
  · rw [List.filterMap_append,List.map_append,first.order,second.order]
  · rw [List.count_append,List.length_append,first.acquired,second.acquired]
  · rw [List.count_append,List.length_append,first.released,second.released]

end Asks

-- On any database that lends connections and has these replies left, the task asks for this and gives
-- that.
def Performs (task : ExceptT ε (StateM (Db ρ)) α) (replies : List Reply)
    (asked : List (Wanted × Statement)) (result : Except ε α) : Prop :=
  ∀ db : Db ρ, db.backend.availability.refusal? = none → db.backend.replies = replies →
    ∃ acts next, db.backend.Grown acts asked.length next.backend ∧ Asks acts asked ∧
      task db = (result,next)

namespace Performs

variable {task : ExceptT ε (StateM (Db ρ)) α} {next : α → ExceptT ε (StateM (Db ρ)) β}
  {asked others : List (Wanted × Statement)} {replies : List Reply}

theorem log (event : Event) (replies : List Reply) :
    Performs (Db.log (ρ := ρ) event) replies [] (.ok ()) := by
  intro db _ _
  exact ⟨_,_,log_grown db.backend event,.logged event,rfl⟩

theorem still (result : Except ε α) (replies : List Reply) :
    Performs (fun db : Db ρ => (result,db)) replies [] result := by
  intro db _ _
  exact ⟨[],db,.refl _,⟨rfl,rfl,rfl⟩,rfl⟩

theorem bind_error (head : Performs task replies asked (.error e)) :
    Performs (task >>= next) replies asked (.error e) := by
  intro db lent left
  obtain ⟨acts,after,grown,asks,ran⟩ := head db lent left
  refine ⟨acts,after,grown,asks,?_⟩
  rw [bind_run,ran]

-- What comes later is answered by the replies that are left.
theorem bind_ok (head : Performs task replies asked (.ok a))
    (tail : Performs (next a) (replies.drop asked.length) others result) :
    Performs (task >>= next) replies (asked ++ others) result := by
  intro db lent left
  obtain ⟨acts,middle,grown,asks,ran⟩ := head db lent left
  obtain ⟨more,after,further,later,final⟩ := tail middle (by rw [grown.availability,lent])
    (by rw [grown.replies,left])
  refine ⟨acts ++ more,after,?_,asks.append later,?_⟩
  · rw [List.length_append]
    exact grown.trans further
  · rw [bind_run,ran]
    exact final

-- What comes later asks for nothing.
theorem bind_silent (head : Performs task replies asked (.ok a))
    (tail : Performs (next a) (replies.drop asked.length) [] result) :
    Performs (task >>= next) replies asked result := by
  have whole := head.bind_ok tail
  rwa [List.append_nil] at whole

-- A task whose outcome is read.
theorem map {read : α → Except ε β} (head : Performs task replies asked result) :
    Performs (task >>= fun a db => (read a,db)) replies asked (result >>= read) := by
  cases result with
  | error e => exact head.bind_error
  | ok a => exact head.bind_silent (.still (read a) _)

end Performs

namespace Load

-- The rows that a query is answered with, or why there are none.
def found (replies : List Reply) (i : Nat) : Except Error (List Row) :=
  (outcomeOf .rows replies[i]?).map Outcome.toRows

theorem Performs.execute (s : Statement) (replies : List Reply) :
    Performs (Db.execute (ρ := ρ) s) replies [(.count,s)] (answer replies 0) := by
  intro db ready left
  obtain ⟨next,ran,grown⟩ := execute_ready ready s
  rw [left] at ran
  exact ⟨_,next,grown,.exchanged s .count _,ran⟩

theorem Performs.queryRows (s : Statement) (replies : List Reply) :
    Performs (Db.queryRows (ρ := ρ) s) replies [(.rows,s)] (found replies 0) := by
  intro db ready left
  obtain ⟨answered,grown⟩ := perform_ready ready s .rows
  refine ⟨_,{ db with backend := (db.backend.perform s .rows).2 },grown,.exchanged s .rows _,?_⟩
  have ran : Db.run s .rows db =
      ((db.backend.perform s .rows).1,{ db with backend := (db.backend.perform s .rows).2 }) := rfl
  rw [Db.queryRows,bind_run,ran,answered,left,found,← List.head?_eq_getElem?]
  cases outcomeOf .rows replies.head? <;> rfl

-- Whether the table is there, as the first reply tells it.
def told (replies : List Reply) : Except Error Bool := found replies 0 >>= existence

-- The columns that the table has, as the second reply tells them.
def described (replies : List Reply) : Except Error (List (String × String)) :=
  found replies 1 >>= declaredColumns

def missing (table : Ident) : Error :=
  .query s!"table {table.sql} does not exist and create_if_not_exists is false" none

-- All that making a table ready can come to: what is asked, and the columns as they are to be filled.
inductive Opening (options : Options) (table : Ident) (schema : TableSchema) (replies : List Reply) :
    List (Wanted × Statement) → Except Error TableSchema → Prop
  | undropped (drops : options.dropIfExists = true) (refusal : answer replies 0 = .error e) :
      Opening options table schema replies [(.count,dropTable table)] (.error e)
  | remade (drops : options.dropIfExists = true) (dropped : answer replies 0 = .ok n) :
      Opening options table schema replies
        [(.count,dropTable table),(.count,schema.createTable table options.autoIncrement)]
        ((answer replies 1).map fun _ => schema)
  | untold (keeps : options.dropIfExists = false) (failed : told replies = .error e) :
      Opening options table schema replies [(.rows,tableExists table)] (.error e)
  | taken (keeps : options.dropIfExists = false) (present : told replies = .ok true) :
      Opening options table schema replies
        [(.rows,tableExists table),(.rows,tableColumns table)] ((described replies).map schema.adopt)
  | missed (keeps : options.dropIfExists = false) (absent : told replies = .ok false)
      (bound : options.createIfNotExists = false) :
      Opening options table schema replies [(.rows,tableExists table)] (.error (missing table))
  | made (keeps : options.dropIfExists = false) (absent : told replies = .ok false)
      (free : options.createIfNotExists = true) :
      Opening options table schema replies
        [(.rows,tableExists table),(.count,schema.createTable table options.autoIncrement)]
        ((answer replies 1).map fun _ => schema)

theorem Opening.some {options : Options} {table : Ident} {schema : TableSchema} {replies : List Reply}
    (opening : Opening options table schema replies asked result) : asked ≠ [] := by
  cases opening <;> simp

theorem makeTable_performs (options : Options) (table : Ident) (schema : TableSchema)
    (replies : List Reply) : Performs (makeTable (ρ := ρ) options table schema) replies
      [(.count,schema.createTable table options.autoIncrement)]
      ((answer replies 0).map fun _ => schema) := by
  have executed := Performs.execute (ρ := ρ) (schema.createTable table options.autoIncrement) replies
  unfold makeTable
  refine (Performs.log _ replies).bind_ok ?_
  cases answered : answer replies 0 with
  | error e =>
    rw [answered] at executed
    exact executed.bind_error
  | ok n =>
    rw [answered] at executed
    exact executed.bind_silent ((Performs.log _ _).bind_silent (.still (.ok schema) _))

theorem askExists_performs (table : Ident) (replies : List Reply) :
    Performs (askExists (ρ := ρ) table) replies [(.rows,tableExists table)] (told replies) :=
  (Performs.queryRows (tableExists table) replies).map

-- The replies behind the first are those from the second on.
theorem answer_next (replies : List Reply) : answer (replies.drop 1) 0 = answer replies 1 := by
  rw [List.drop_one,answer_tail]

theorem found_next (replies : List Reply) : found (replies.drop 1) 0 = found replies 1 := by
  rw [found,found,List.getElem?_drop]

theorem adopt_performs (table : Ident) (schema : TableSchema) (replies : List Reply) :
    Performs (ρ := ρ) (do
      let declared ← declaredColumns (← Db.queryRows (tableColumns table))
      Db.log (.tableFound table.sql declared.length)
      return schema.adopt declared) replies [(.rows,tableColumns table)]
      ((found replies 0 >>= declaredColumns).map schema.adopt) := by
  have querying := Performs.queryRows (ρ := ρ) (tableColumns table) replies
  cases answered : found replies 0 with
  | error e =>
    rw [answered] at querying
    exact querying.bind_error
  | ok rows =>
    rw [answered] at querying
    refine querying.bind_silent ?_
    change Performs _ _ _ ((declaredColumns rows).map schema.adopt)
    cases declaredColumns rows with
    | error e => exact (Performs.still (.error e) _).bind_error
    | ok declared =>
      have last := Performs.still (ε := Error) (ρ := ρ) (.ok (schema.adopt declared)) (replies.drop 1)
      exact (Performs.still (.ok declared) _).bind_silent ((Performs.log _ _).bind_silent last)

theorem dropped_opening {options : Options} (drops : options.dropIfExists = true) (table : Ident)
    (schema : TableSchema) (replies : List Reply) :
    ∃ asked result, Opening options table schema replies asked result ∧
      Performs (prepareTable (ρ := ρ) options table schema) replies asked result := by
  have dropping := Performs.execute (ρ := ρ) (dropTable table) replies
  unfold prepareTable
  simp only [if_pos drops]
  cases dropped : answer replies 0 with
  | error e =>
    rw [dropped] at dropping
    exact ⟨_,_,.undropped drops dropped,dropping.bind_error⟩
  | ok n =>
    rw [dropped] at dropping
    have making := makeTable_performs (ρ := ρ) options table schema (replies.drop 1)
    rw [answer_next] at making
    exact ⟨_,_,.remade drops dropped,dropping.bind_ok ((Performs.log _ _).bind_ok making)⟩

theorem kept_opening {options : Options} (keeps : options.dropIfExists = false) (table : Ident)
    (schema : TableSchema) (replies : List Reply) :
    ∃ asked result, Opening options table schema replies asked result ∧
      Performs (prepareTable (ρ := ρ) options table schema) replies asked result := by
  have asking := askExists_performs (ρ := ρ) table replies
  have kept : ¬options.dropIfExists = true := by simp [keeps]
  unfold prepareTable
  simp only [if_neg kept]
  cases answered : told replies with
  | error e =>
    rw [answered] at asking
    exact ⟨_,_,.untold keeps answered,asking.bind_error⟩
  | ok present =>
    rw [answered] at asking
    cases present with
    | true =>
      have adopting := adopt_performs (ρ := ρ) table schema (replies.drop 1)
      rw [found_next] at adopting
      exact ⟨_,_,.taken keeps answered,asking.bind_ok adopting⟩
    | false =>
      cases creates : options.createIfNotExists with
      | true =>
        have making := makeTable_performs (ρ := ρ) options table schema (replies.drop 1)
        rw [answer_next] at making
        refine ⟨_,_,.made keeps answered creates,asking.bind_ok ?_⟩
        simpa [creates] using making
      | false =>
        exact ⟨_,_,.missed keeps answered creates,asking.bind_silent (.still (.error _) _)⟩

theorem prepareTable_opening (options : Options) (table : Ident) (schema : TableSchema)
    (replies : List Reply) : ∃ asked result, Opening options table schema replies asked result ∧
      Performs (prepareTable (ρ := ρ) options table schema) replies asked result := by
  cases drops : options.dropIfExists with
  | true => exact dropped_opening drops table schema replies
  | false => exact kept_opening drops table schema replies

theorem Performs.after {task : Task ρ α} {replies : List Reply} {asked : List (Wanted × Statement)}
    {result : Except Error α} (performs : Performs task replies asked result) (report : Report) : Performs (report.after task) replies asked (result.mapError report.stop) := by
  intro db lent left
  obtain ⟨acts,next,grown,asks,ran⟩ := performs db lent left
  exact ⟨acts,next,grown,asks,by rw [after_run,ran]⟩

-- The key column is looked at before anything is asked.
theorem openTable_keyed {options : Options} {table : Ident} {schema : TableSchema}
    (keyed : options.autoIncrement = true → ∃ key, schema.identityColumn table = .ok key) (db : Db ρ) :
    openTable options table schema db = Report.empty.after (prepareTable options table schema) db := by
  unfold openTable
  by_cases wanted : options.autoIncrement = true
  · obtain ⟨key,made⟩ := keyed wanted
    rw [if_pos wanted,bind_run,after_run,made]
    rfl
  · rw [if_neg wanted]

theorem openTable_opening {options : Options} {table : Ident} {schema : TableSchema}
    (keyed : options.autoIncrement = true → ∃ key, schema.identityColumn table = .ok key)
    (replies : List Reply) : ∃ asked result, Opening options table schema replies asked result ∧
      Performs (openTable (ρ := ρ) options table schema) replies asked
        (result.mapError Report.empty.stop) := by
  obtain ⟨asked,result,opening,performs⟩ := prepareTable_opening (ρ := ρ) options table schema replies
  refine ⟨asked,result,opening,fun db lent left => ?_⟩
  rw [openTable_keyed keyed]
  exact Performs.after performs Report.empty db lent left

end Load

end DataAccess
