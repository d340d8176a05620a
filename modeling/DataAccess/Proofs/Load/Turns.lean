import DataAccess.Proofs.Load.Messages

-- Single turns of the two halves of a load. Whatever a turn does, the end that the load comes to if
-- the rest is done in order stays what it was; and the messages that are received, those in the
-- queue and those that are still to be sent stay the same in their order, as long as the inserting
-- half goes on.
namespace DataAccess.Load

namespace Reading

-- A reading half that has its sample behind it.
def settled (options : Options) : Reading → Reading
  | .sampling document => .begin options document
  | reading => reading

-- What is still sent, if nobody stops it.
def toCome (size : Nat) : Reading → List Message
  | .gathering chunk left fault => gathered size fault chunk left
  | .sending chunk left fault => .ok chunk :: gathered size fault [] left
  | .closing last => [last]
  | .sampling _ | .gone _ => []

-- Whether the reader will die, or has died.
def dies : Reading → Bool
  | .gathering _ _ fault | .sending _ _ fault => diesOf fault
  | .gone died => died
  | .sampling _ | .closing _ => false

theorem begin_other (options : Options) (document other : Csv.Document) :
    begin options document ≠ .sampling other := by
  unfold begin
  split
  · exact Reading.noConfusion
  · exact Reading.noConfusion
  · split <;> exact Reading.noConfusion

-- Without columns that are to be filled there is nothing to read.
theorem begin_gone {options : Options} {document : Csv.Document}
    (nothing : ∀ sampled, columnsOf options document = some (.ok sampled) → sampled.records = 0) :
    ∃ died, begin options document = .gone died := by
  unfold columnsOf at nothing
  unfold begin
  split
  · exact ⟨true,rfl⟩
  · exact ⟨false,rfl⟩
  · rename_i feed fed
    rw [fed] at nothing
    have zero : feed.sampled = 0 := nothing _ rfl
    rw [if_pos zero]
    exact ⟨false,rfl⟩

theorem begin_settled (options : Options) (document : Csv.Document) :
    (begin options document).settled options = begin options document := by
  unfold begin
  split
  · rfl
  · rfl
  · split <;> rfl

theorem finish_toCome (size : Nat) (chunk : List Csv.Record) (fault : Option CsvFault) :
    (finish chunk fault).toCome size = lastMessage chunk fault ∧
      (finish chunk fault).dies = diesOf fault := by
  cases fault with
  | none =>
    unfold finish lastMessage
    by_cases empty : chunk = []
    · rw [if_pos empty,if_pos empty]
      exact ⟨rfl,rfl⟩
    · rw [if_neg empty,if_neg empty]
      exact ⟨rfl,rfl⟩
  | some fault => cases fault <;> exact ⟨rfl,rfl⟩

theorem finish_settled (options : Options) (chunk : List Csv.Record) (fault : Option CsvFault) :
    (finish chunk fault).settled options = finish chunk fault := by
  unfold finish
  split
  · split <;> rfl
  · rfl
  · rfl

theorem gather_toCome (size : Nat) (chunk left : List Csv.Record) (record : Csv.Record)
    (fault : Option CsvFault) : (gather size (chunk ++ [record]) left fault).toCome size =
      gathered size fault chunk (record :: left) := by
  unfold gather gathered
  split <;> rfl

theorem gather_settled (options : Options) (size : Nat) (chunk left : List Csv.Record)
    (fault : Option CsvFault) : (gather size chunk left fault).settled options =
      gather size chunk left fault ∧ (gather size chunk left fault).dies = diesOf fault := by
  unfold gather
  split <;> exact ⟨rfl,rfl⟩

end Reading

namespace Handover

-- The messages in the queue, and those that are still to come.
def ahead (options : Options) (h : Handover ρ) : List Message :=
  h.queue ++ (h.reading.settled options).toCome options.chunkSize

def doomed (options : Options) (h : Handover ρ) : Bool := (h.reading.settled options).dies

-- The columns that are handed over, or will be.
def expected (options : Options) (h : Handover ρ) : Option (Except Error Sampled) :=
  match h.reading with
  | .sampling document => columnsOf options document
  | _ => h.columns

section

variable (options : Options) (table : Ident)

def opened (schema : TableSchema) (died : Bool) (left : List Message) : LoadTask ρ Report :=
  openTable options table schema >>= fun filled => drain options table filled died Report.empty left

-- How the inserting half ends when these columns and messages are there.
def ending (columns : Option (Except Error Sampled)) (died : Bool) (left : List Message) :
    Inserting → LoadTask ρ Report
  | .awaiting =>
    match columns with
    | none => throw (.atStart (.csv .readerStopped))
    | some (.error e) => throw (.atStart e)
    | some (.ok sampled) =>
      if sampled.records = 0 then concludeEmpty table
      else opened options table sampled.schema died left
  | .opening schema => opened options table schema died left
  | .receiving schema report => drain options table schema died report left
  | .filling schema report chunk =>
    insertChunk options table schema report chunk >>= fun next =>
      drain options table schema died next left
  | .ended result => fun db => (result,db)

def outcome (h : Handover ρ) : Except Stopped Report × Db ρ :=
  ending options table (h.expected options) (h.doomed options) (h.ahead options) h.inserting h.db

variable {options table} {h : Handover ρ}

theorem expected_settled (same : h.reading.settled options = h.reading) :
    h.expected options = h.columns := by
  unfold expected
  split
  · rename_i document at_h
    rw [at_h] at same
    exact absurd same (Reading.begin_other options document document)
  · rfl

theorem send_untouched (m : Message) (next : Reading) : (h.send m next).inserting = h.inserting ∧
    (h.send m next).db = h.db ∧ (h.send m next).columns = h.columns := by
  unfold send
  split
  · exact ⟨rfl,rfl,rfl⟩
  · split <;> exact ⟨rfl,rfl,rfl⟩

theorem send_settled {next : Reading} (here : h.reading.settled options = h.reading)
    (there : next.settled options = next) (m : Message) :
    (h.send m next).reading.settled options = (h.send m next).reading := by
  unfold send
  split
  · rfl
  · split
    · exact there
    · exact here

theorem read_untouched : (h.read options).inserting = h.inserting ∧ (h.read options).db = h.db := by
  unfold read
  split
  · exact ⟨rfl,rfl⟩
  · exact ⟨rfl,rfl⟩
  · exact ⟨rfl,rfl⟩
  · exact ⟨(send_untouched _ _).1,(send_untouched _ _).2.1⟩
  · exact ⟨(send_untouched _ _).1,(send_untouched _ _).2.1⟩
  · exact ⟨rfl,rfl⟩

-- After a turn of the reader the sample is behind it, and the columns are what they were to be.
theorem read_settled : (h.read options).reading.settled options = (h.read options).reading ∧
    (h.read options).columns = h.expected options := by
  unfold read expected
  cases at_h : h.reading with
  | sampling document => exact ⟨Reading.begin_settled options document,rfl⟩
  | gathering chunk left fault =>
    cases left with
    | nil => exact ⟨Reading.finish_settled options chunk fault,rfl⟩
    | cons record left => exact ⟨(Reading.gather_settled options _ _ left fault).1,rfl⟩
  | sending chunk left fault =>
    exact ⟨send_settled (by rw [at_h]; rfl) rfl _,(send_untouched _ _).2.2⟩
  | closing last => exact ⟨send_settled (by rw [at_h]; rfl) rfl _,(send_untouched _ _).2.2⟩
  | gone died =>
    refine ⟨?_,rfl⟩
    dsimp only
    rw [at_h]
    rfl

theorem read_expected : (h.read options).expected options = h.expected options := by
  rw [expected_settled read_settled.1,read_settled.2]

theorem send_keeps (running : h.hasEnded = false) {next : Reading}
    (same : next.settled options = next) (m : Message)
    (sends : (h.reading.settled options).toCome options.chunkSize = m :: next.toCome options.chunkSize)
    (dies : (h.reading.settled options).dies = next.dies) :
    (h.send m next).ahead options = h.ahead options ∧
      (h.send m next).doomed options = h.doomed options := by
  unfold send
  rw [if_neg (by simp [running])]
  split
  · unfold ahead doomed
    dsimp only
    rw [same,sends,dies,List.append_assoc]
    exact ⟨rfl,rfl⟩
  · exact ⟨rfl,rfl⟩

-- Reading takes nothing away from what is ahead.
theorem read_keeps (running : h.hasEnded = false) :
    (h.read options).ahead options = h.ahead options ∧
      (h.read options).doomed options = h.doomed options := by
  cases at_h : h.reading with
  | sampling document =>
    unfold read ahead doomed
    simp only [at_h]
    rw [Reading.begin_settled]
    exact ⟨rfl,rfl⟩
  | gathering chunk left fault =>
    cases left with
    | nil =>
      obtain ⟨last,dies⟩ := Reading.finish_toCome options.chunkSize chunk fault
      unfold read ahead doomed
      simp only [at_h]
      rw [Reading.finish_settled,last,dies]
      exact ⟨rfl,rfl⟩
    | cons record left =>
      obtain ⟨same,dies⟩ :=
        Reading.gather_settled options options.chunkSize (chunk ++ [record]) left fault
      unfold read ahead doomed
      simp only [at_h]
      rw [same,Reading.gather_toCome,dies]
      exact ⟨rfl,rfl⟩
  | sending chunk left fault =>
    unfold read
    simp only [at_h]
    apply send_keeps running rfl
    · rw [at_h]
      rfl
    · rw [at_h]
      rfl
  | closing last =>
    unfold read
    simp only [at_h]
    apply send_keeps running rfl
    · rw [at_h]
      rfl
    · rw [at_h]
      rfl
  | gone died =>
    unfold read
    simp only [at_h]
    exact ⟨trivial,trivial⟩

theorem ended_outcome (ended : h.inserting = .ended result) : h.outcome options table = (result,h.db) := by
  rw [outcome,ended]
  rfl

theorem read_outcome : (h.read options).outcome options table = h.outcome options table := by
  obtain ⟨inserting,db⟩ := @read_untouched _ options h
  cases running : h.hasEnded with
  | true =>
    unfold hasEnded at running
    split at running
    · rename_i ended
      rw [ended_outcome ended,ended_outcome (inserting.trans ended),db]
    · cases running
  | false =>
    obtain ⟨ahead,doomed⟩ := @read_keeps _ options h running
    unfold outcome
    rw [inserting,db,ahead,doomed,read_expected]

-- What is known of the two halves together, whoever took the last turn.
structure Sound (options : Options) (h : Handover ρ) : Prop where
  unsampled : ∀ document, h.reading = .sampling document →
    h.columns = none ∧ h.inserting = .awaiting ∧ h.queue = []
  unheaded : h.columns = none → (∀ document, h.reading ≠ .sampling document) →
    ∃ died, h.reading = .gone died
  empty : ∀ sampled, h.columns = some (.ok sampled) → sampled.records = 0 →
    h.queue = [] ∧ ∃ died, h.reading = .gone died
  complete : ∀ report, h.inserting = .ended (.ok report) →
    h.queue = [] ∧ ∃ died, h.reading = .gone died
  within : h.queue.length ≤ h.capacity

theorem start_sound (capacity : Nat) (document : Csv.Document) (db : Db ρ) :
    Sound options (start capacity document db) := by
  refine ⟨fun _ _ => ⟨rfl,rfl,rfl⟩,?_,?_,?_,Nat.zero_le _⟩
  · intro _ other
    exact absurd rfl (other document)
  · intro _ given
    cases given
  · intro _ ended
    cases ended

theorem send_within (fits : h.queue.length ≤ h.capacity) (m : Message) (next : Reading) :
    (h.send m next).queue.length ≤ (h.send m next).capacity := by
  unfold send
  split
  · exact fits
  · split
    · rename_i room
      simpa using Nat.succ_le_of_lt room
    · exact fits

theorem Sound.at_work (sound : Sound options h) (unsettled : h.reading.settled options = h.reading)
    (busy : ∀ died, h.reading ≠ .gone died) : h.columns ≠ none ∧
      (∀ sampled, h.columns = some (.ok sampled) → sampled.records ≠ 0) ∧
        ∀ report, h.inserting ≠ .ended (.ok report) := by
  have other : ∀ document, h.reading ≠ .sampling document := by
    intro document at_h
    rw [at_h] at unsettled
    exact Reading.begin_other options document document unsettled
  refine ⟨fun none => ?_,fun sampled given zero => ?_,fun report ended => ?_⟩
  · obtain ⟨died,gone⟩ := sound.unheaded none other
    exact busy died gone
  · obtain ⟨_,died,gone⟩ := sound.empty sampled given zero
    exact busy died gone
  · obtain ⟨_,died,gone⟩ := sound.complete report ended
    exact busy died gone

theorem Sound.read (sound : Sound options h) : Sound options (h.read options) := by
  obtain ⟨settled,columns⟩ := @read_settled _ options h
  obtain ⟨inserting,_⟩ := @read_untouched _ options h
  have other : ∀ document, (h.read options).reading ≠ .sampling document := by
    intro document at_h
    rw [at_h] at settled
    exact Reading.begin_other options document document settled
  have working (busy : ∀ died, h.reading ≠ .gone died) (same : h.reading.settled options = h.reading)
      (fits : (h.read options).queue.length ≤ (h.read options).capacity) :
      Sound options (h.read options) := by
    obtain ⟨given,some,unended⟩ := sound.at_work same busy
    rw [expected_settled same] at columns
    rw [← columns] at given some
    rw [← inserting] at unended
    exact ⟨fun document at_h => absurd at_h (other document),fun none => absurd none given,
      fun sampled own zero => absurd zero (some sampled own),
      fun report ended => absurd ended (unended report),fits⟩
  cases at_h : h.reading with
  | sampling document =>
    obtain ⟨_,awaiting,empty⟩ := sound.unsampled document at_h
    have ran : h.read options =
        { h with columns := columnsOf options document,reading := .begin options document } := by
      unfold Handover.read
      simp only [at_h]
    rw [ran] at other ⊢
    refine ⟨fun document at_h => absurd at_h (other document),?_,?_,?_,sound.within⟩
    · intro none _
      refine Reading.begin_gone fun sampled given => ?_
      cases none.symm.trans given
    · intro sampled given zero
      refine ⟨empty,Reading.begin_gone fun other same => ?_⟩
      cases given.symm.trans same
      exact zero
    · intro report ended
      cases awaiting.symm.trans ended
  | gathering chunk left fault =>
    refine working (by simp [at_h]) (by rw [at_h]; rfl) ?_
    unfold Handover.read
    simp only [at_h]
    cases left with
    | nil => exact sound.within
    | cons record left => exact sound.within
  | sending chunk left fault =>
    refine working (by simp [at_h]) (by rw [at_h]; rfl) ?_
    unfold Handover.read
    simp only [at_h]
    exact send_within sound.within _ _
  | closing last =>
    refine working (by simp [at_h]) (by rw [at_h]; rfl) ?_
    unfold Handover.read
    simp only [at_h]
    exact send_within sound.within _ _
  | gone died =>
    have ran : h.read options = h := by
      unfold Handover.read
      simp only [at_h]
    rwa [ran]

-- What a turn of the inserting half takes out of the queue.
def taken? (h : Handover ρ) : Option Message :=
  match h.inserting with
  | .receiving _ _ => h.queue.head?
  | _ => none

theorem work_same (task : LoadTask ρ α) (next : α → Inserting) :
    (h.work task next).reading = h.reading ∧ (h.work task next).columns = h.columns ∧
      (h.work task next).queue = h.queue ∧ (h.work task next).capacity = h.capacity := by
  unfold work
  split <;> exact ⟨rfl,rfl,rfl,rfl⟩

-- Inserting takes the first message, if any, and leaves all else that is between the halves.
theorem insert_same : (h.insert options table).reading = h.reading ∧
    (h.insert options table).columns = h.columns ∧
    h.taken?.toList ++ (h.insert options table).queue = h.queue ∧
    (h.insert options table).capacity = h.capacity := by
  unfold insert taken?
  cases at_h : h.inserting with
  | awaiting =>
    dsimp only
    unfold await
    split
    · exact ⟨rfl,rfl,rfl,rfl⟩
    · split
      · exact work_same _ _
      · exact ⟨rfl,rfl,rfl,rfl⟩
    · exact ⟨rfl,rfl,rfl,rfl⟩
    · exact ⟨rfl,rfl,rfl,rfl⟩
  | opening schema => exact work_same _ _
  | receiving schema report =>
    dsimp only
    unfold receive
    split
    · rename_i queued
      rw [queued]
      exact ⟨rfl,rfl,rfl,rfl⟩
    · rename_i queued
      rw [queued]
      exact ⟨rfl,rfl,rfl,rfl⟩
    · rename_i died queued _
      obtain ⟨reading,columns,queue,capacity⟩ := work_same (h := h)
        (conclude table report (if died then some .readerStopped else none)) fun report =>
          .ended (.ok report)
      rw [queued] at queue ⊢
      exact ⟨reading,columns,queue,capacity⟩
    · rename_i queued _
      rw [queued]
      exact ⟨rfl,rfl,rfl,rfl⟩
  | filling schema report chunk => exact work_same _ _
  | ended result => exact ⟨rfl,rfl,rfl,rfl⟩

theorem work_cases (task : LoadTask ρ α) (next : α → Inserting) :
    (∃ a db, task h.db = (.ok a,db) ∧ h.work task next = { h with inserting := next a,db }) ∨
      ∃ e db, task h.db = (.error e,db) ∧
        h.work task next = { h with inserting := .ended (.error e),db } := by
  unfold work
  cases ran : task h.db with
  | mk result db =>
    cases result with
    | ok a => exact .inl ⟨a,db,rfl,rfl⟩
    | error e => exact .inr ⟨e,db,rfl,rfl⟩

-- Work after which there is more to do ends nothing well.
theorem work_unended (task : LoadTask ρ α) {next : α → Inserting}
    (further : ∀ a, next a ≠ .ended (.ok report)) :
    (h.work task next).inserting ≠ .ended (.ok report) := by
  intro ended
  rcases work_cases (h := h) task next with ⟨a,db,_,same⟩ | ⟨e,db,_,same⟩
  · rw [same] at ended
    exact further a ended
  · rw [same] at ended
    cases ended

-- A load ends well only behind all that was to be sent.
theorem insert_complete (sound : Sound options h)
    (ended : (h.insert options table).inserting = .ended (.ok report)) :
    h.queue = [] ∧ ∃ died, h.reading = .gone died := by
  cases at_h : h.inserting with
  | awaiting =>
    unfold insert await at ended
    simp only [at_h] at ended
    split at ended
    · cases ended
    · rename_i sampled given
      split at ended
      · rename_i zero
        exact sound.empty sampled given zero
      · cases ended
    · cases ended
    · cases at_h.symm.trans ended
  | opening schema =>
    unfold insert at ended
    simp only [at_h] at ended
    exact absurd ended (work_unended _ fun _ => Inserting.noConfusion)
  | receiving schema own =>
    unfold insert receive at ended
    simp only [at_h] at ended
    split at ended
    · cases ended
    · cases ended
    · rename_i died queued gone
      exact ⟨queued,died,gone⟩
    · cases at_h.symm.trans ended
  | filling schema own chunk =>
    unfold insert at ended
    simp only [at_h] at ended
    exact absurd ended (work_unended _ fun _ => Inserting.noConfusion)
  | ended result =>
    unfold insert at ended
    simp only [at_h] at ended
    exact sound.complete report (at_h.trans ended)

theorem Sound.insert (sound : Sound options h) : Sound options (h.insert options table) := by
  obtain ⟨reading,columns,taken,capacity⟩ := @insert_same _ options table h
  have emptied (none : h.queue = []) : (h.insert options table).queue = [] := by
    rw [none] at taken
    exact (List.append_eq_nil_iff.mp taken).2
  refine ⟨?_,?_,?_,?_,?_⟩
  · intro document at_h
    rw [reading] at at_h
    obtain ⟨none,awaiting,empty⟩ := sound.unsampled document at_h
    refine ⟨columns.trans none,?_,emptied empty⟩
    unfold Handover.insert await
    simp only [awaiting,none,at_h]
  · rw [reading,columns]
    exact sound.unheaded
  · intro sampled given zero
    rw [columns] at given
    obtain ⟨none,gone⟩ := sound.empty sampled given zero
    exact ⟨emptied none,by rwa [reading]⟩
  · intro report ended
    obtain ⟨none,gone⟩ := insert_complete sound ended
    exact ⟨emptied none,by rwa [reading]⟩
  · have shorter := congrArg List.length taken
    rw [List.length_append] at shorter
    have fits := sound.within
    omega

theorem insert_ahead : h.taken?.toList ++ (h.insert options table).ahead options = h.ahead options := by
  obtain ⟨reading,_,taken,_⟩ := @insert_same _ options table h
  rw [ahead,ahead,reading,← List.append_assoc,taken]

-- One step of work, and what comes after it.
theorem work_outcome (task : LoadTask ρ α) (next : α → Inserting) (after : α → LoadTask ρ Report)
    (later : ∀ a, ending options table (h.expected options) (h.doomed options) (h.ahead options)
      (next a) = after a) :
    (h.work task next).outcome options table = (task >>= after) h.db := by
  rw [bind_run]
  rcases work_cases (h := h) task next with ⟨a,db,ran,same⟩ | ⟨e,db,ran,same⟩
  · rw [same,ran]
    dsimp only
    rw [← later a]
    rfl
  · rw [same,ran]
    rfl

theorem last_outcome (task : LoadTask ρ Report) :
    (h.work task fun report => .ended (.ok report)).outcome options table = task h.db := by
  have whole : (h.work task fun report => .ended (.ok report)).outcome options table =
      (task >>= pure) h.db := work_outcome task _ pure fun _ => rfl
  rwa [bind_pure] at whole

theorem await_outcome (sound : Sound options h) (awaiting : h.inserting = .awaiting) :
    (h.insert options table).outcome options table = h.outcome options table := by
  have given (some : h.columns ≠ none) : h.expected options = h.columns := by
    apply expected_settled
    cases at_h : h.reading with
    | sampling document => exact absurd (sound.unsampled document at_h).1 some
    | _ => rfl
  have whole : h.outcome options table = ending options table (h.expected options)
      (h.doomed options) (h.ahead options) .awaiting h.db := by rw [outcome,awaiting]
  rw [whole]
  unfold insert await
  simp only [awaiting]
  split
  · rename_i e failed
    rw [given (by simp [failed]),failed]
    rfl
  · rename_i sampled read
    rw [given (by simp [read]),read]
    unfold ending
    dsimp only
    by_cases zero : sampled.records = 0
    · rw [if_pos zero,if_pos zero]
      exact last_outcome _
    · rw [if_neg zero,if_neg zero,outcome]
      rfl
  · rename_i died none gone
    have same : h.expected options = Option.none := by
      rw [expected_settled (by rw [gone]; rfl),none]
    rw [same]
    rfl
  · rw [whole]

theorem receive_outcome (receiving : h.inserting = .receiving schema report) :
    (h.insert options table).outcome options table = h.outcome options table := by
  have whole : h.outcome options table =
      drain options table schema (h.doomed options) report (h.ahead options) h.db := by
    rw [outcome,receiving]
    rfl
  rw [whole]
  unfold insert receive
  simp only [receiving]
  split
  · rename_i queued
    rw [ahead,queued]
    rfl
  · rename_i queued
    rw [ahead,queued]
    rfl
  · rename_i died queued gone
    rw [last_outcome,ahead,queued,doomed,gone]
    rfl
  · exact whole

theorem insert_outcome (sound : Sound options h) :
    (h.insert options table).outcome options table = h.outcome options table := by
  cases at_h : h.inserting with
  | awaiting => exact await_outcome sound at_h
  | opening schema =>
    have ran : h.insert options table = h.work (openTable options table schema) fun filled =>
        .receiving filled Report.empty := by
      unfold insert
      simp only [at_h]
    rw [ran,work_outcome _ _ _ fun _ => rfl,outcome,at_h]
    rfl
  | receiving schema report => exact receive_outcome at_h
  | filling schema report chunk =>
    have ran : h.insert options table =
        h.work (insertChunk options table schema report chunk) (.receiving schema) := by
      unfold insert
      simp only [at_h]
    rw [ran,work_outcome _ _ _ fun _ => rfl,outcome,at_h]
    rfl
  | ended result =>
    unfold insert
    simp only [at_h]

end

end Handover

end DataAccess.Load
