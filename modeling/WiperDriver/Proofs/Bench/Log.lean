import WiperDriver.Proofs.Bench.Locks
import WiperDriver.Proofs.Wiper.Reports

/-!
# The log of a bus with many callers

Whatever jobs are done over whatever bus, the log tells of all that went over it, and of nothing
else. A single job takes a faithful course (`Job.truthful_run`), so a run of many does
(`faithful_course`). About its own job, a caller finds in the log what `Job.Reported` says: no
register traffic if the bus was left alone, where a step will end, and a warning about a status that
was refused. The lines of register traffic can be read back, so the log is enough to know what went
over the bus (`log_records_bus`).
-/

namespace WiperDriver

open Log (Announces Faithful Records RecordsBus Traffic Truthful Warns refused?)

variable {σ : Type}

namespace Bench

variable {handles : Handles} {job : Job}

/-! ## One job -/

/-- A job that reads STATUS, on the registers or for a wiper under control. -/
inductive Job.ReadsStatus (handles : Handles) : Job → Prop
  | registers : ReadsStatus handles (.registers .status)
  | perform {number : Nat} {wiper : Wiper} (h : handles number = some wiper) :
    ReadsStatus handles (.perform number .status)

/-- **What a job does on the bus is all in the log**, and nothing else is. -/
theorem Job.truthful_run (job : Job) (handles : Handles) :
    Truthful (job.ReadsStatus handles) (job.run handles) := by
  cases job with
  | registers operation =>
    refine ((Registers.truthful_perform operation).mono ?_).map _
    rintro rfl
    exact .registers
  | start number model channel mode initial =>
    exact (Wiper.truthful_start model channel mode initial).map _
  | position number => exact .done _
  | perform number operation =>
    cases hwiper : handles number with
    | none =>
      rw [run_perform_of_none hwiper]
      exact .done _
    | some wiper =>
      rw [run_perform hwiper]
      refine ((Wiper.truthful_perform operation wiper).mono ?_).map _
      rintro rfl
      exact .perform hwiper

/-- What the log shows of a job. -/
structure Job.Reported (responder : Bus.Responder σ) (handles : Handles) (state : σ) (job : Job) :
    Prop where
  /-- Without a transaction there is no register traffic to tell of. -/
  quiet : ((job.run handles).run responder state).calls = [] →
    ((job.run handles).run responder state).shown .trace = []
  /-- A step with something to do is remarked upon, once. -/
  stepped {number : Nat} {operation : Wiper.Operation} {wiper : Wiper} {direction : Direction}
    {steps : UInt32} (hjob : job = .perform number operation) (hwiper : handles number = some wiper)
    (hstep : operation.steps? = some (direction, steps)) (hmode : wiper.mode = .volatileOnly)
    (hsteps : steps ≠ 0) (hdistance : wiper.distance direction ≠ 0) :
    wiper.RemarksStep direction steps (((job.run handles).run responder state).shown .debug)
      (Wiper.attempt responder operation wiper state).value
  /-- No other step is. -/
  unstepped {number : Nat} {operation : Wiper.Operation} {wiper : Wiper} {direction : Direction}
    {steps : UInt32} (hjob : job = .perform number operation) (hwiper : handles number = some wiper)
    (hstep : operation.steps? = some (direction, steps))
    (hnot : ¬ (wiper.mode = .volatileOnly ∧ steps ≠ 0 ∧ wiper.distance direction ≠ 0)) :
    ((job.run handles).run responder state).shown .debug = []
  /-- A status that is refused is warned about, once. -/
  warned : job.ReadsStatus handles → ∃ exchange,
    ((job.run handles).run responder state).exchanges = [exchange] ∧
    List.Forall₂ Warns (((job.run handles).run responder state).shown .warn)
      (refused? exchange).toList
  /-- There is no other warning. -/
  unwarned : ¬ job.ReadsStatus handles → ((job.run handles).run responder state).shown .warn = []

/-- The log of an operation on a wiper is that of its job. -/
theorem Job.shown_run_perform {number : Nat} {wiper : Wiper} (h : handles number = some wiper)
    (responder : Bus.Responder σ) (operation : Wiper.Operation) (state : σ) (level : Log.Level) :
    (((Job.perform number operation).run handles).run responder state).shown level =
      (Wiper.attempt responder operation wiper state).shown level := by
  rw [run_perform h, Dialogue.run_map]
  rfl

/-- A job that reads STATUS warns if the word is refused. -/
theorem Job.ReadsStatus.warned (h : job.ReadsStatus handles) (responder : Bus.Responder σ)
    (state : σ) :
    let outcome := (job.run handles).run responder state
    ∃ exchange, outcome.exchanges = [exchange] ∧
      List.Forall₂ Warns (outcome.shown .warn) (refused? exchange).toList := by
  cases h with
  | registers =>
    rw [Job.run, Dialogue.run_map, Registers.Operation.perform, ExceptT.run_map, Dialogue.run_map]
    exact Registers.warned_status responder state
  | perform h =>
    rw [Job.run_perform h, Dialogue.run_map]
    exact Wiper.warned_status responder _ state

/-- **Every job is reported so.** -/
theorem Job.reported (hsound : handles.Sound) (job : Job) (responder : Bus.Responder σ)
    (state : σ) : job.Reported responder handles state := by
  have hfaithful := (job.truthful_run handles) σ responder state
  refine ⟨fun hcalls => ?_, ?_, ?_, fun h => h.warned responder state, fun hnot => ?_⟩
  · exact Outcome.shown_eq_nil (hfaithful.level_ne_trace_of_quiet hcalls)
  · rintro number operation wiper direction steps rfl hwiper hstep hmode hsteps hdistance
    rw [shown_run_perform hwiper, Wiper.attempt_of_steps? hstep]
    exact Wiper.remarked_step (hsound number wiper hwiper).inRange hmode
      (not_or.2 ⟨hsteps, hdistance⟩) responder state
  · rintro number operation wiper direction steps rfl hwiper hstep hnot
    rw [shown_run_perform hwiper, Wiper.attempt_of_steps? hstep]
    exact Wiper.unremarked_step (hsound number wiper hwiper).inRange hnot responder state
  · exact Outcome.shown_eq_nil fun line hmem h => hnot (hfaithful.due_of_warning line hmem h)

/-! ## Many jobs -/

/-- Everything that happens while jobs are done, one after another. -/
def course (responder : Bus.Responder σ) : List Job → Handles → σ → List Bus.Event
  | [], _, _ => []
  | job :: later, handles, state =>
    let first := job.serve responder handles state
    ((job.run handles).run responder state).events ++
      course responder later first.handles first.state

/-- The transactions of a course are those that the jobs have on record. -/
theorem exchanges_course (responder : Bus.Responder σ) (jobs : List Job) (handles : Handles)
    (state : σ) :
    (course responder jobs handles state).filterMap Event.exchange? =
      (serve responder jobs handles state).entries.flatMap Entry.exchanges := by
  induction jobs generalizing handles state with
  | nil => rfl
  | cons job later ih =>
    rw [course, List.filterMap_append, ih]
    rfl

/-- **A run of many jobs takes a faithful course.** -/
theorem faithful_course (responder : Bus.Responder σ) (jobs : List Job) (handles : Handles)
    (state : σ) : Faithful True (course responder jobs handles state) := by
  induction jobs generalizing handles state with
  | nil => exact .nil
  | cons job later ih =>
    exact (((job.truthful_run handles) σ responder state).mono fun _ => trivial).append (ih _ _)

/-- Jobs keep the wipers sound. -/
theorem sound_serve (responder : Bus.Responder σ) (jobs : List Job) (hsound : handles.Sound)
    (state : σ) : (serve responder jobs handles state).handles.Sound := by
  induction jobs generalizing handles state with
  | nil => exact hsound
  | cons job later ih => exact ih (hsound.serve job responder state) _

/-! ## The result -/

/-- **The log is a record of the bus**, whoever does what over whatever bus:

* the lines about registers that are written or pulsed are those of the transactions that send
  something, whether they succeed or not, one by one and in order, each right before its own;
* the lines about registers that are read are those of the transactions that receive two bytes, one
  by one and in order, each right after its own;
* what such a line tells of can be read from its text alone;
* of a job that is left to do, the log will show what `Job.Reported` says, of transactions, steps
  and refused words. -/
theorem log_records_bus (responder : Bus.Responder σ) (jobs : List Job) (start : σ) :
    let events := course responder jobs .none start
    let ledger := serve responder jobs .none start
    events.filterMap Event.exchange? = ledger.entries.flatMap Entry.exchanges ∧
      RecordsBus events ∧
      (∀ (traffic : Traffic) (text : String), traffic.Worded text →
        Traffic.ofText? text = some traffic) ∧
      ∀ job : Job, job.Reported responder ledger.handles ledger.state := by
  intro events ledger
  have hsound : ledger.handles.Sound := sound_serve responder jobs Handles.Sound.none start
  exact ⟨exchanges_course responder jobs .none start,
    (faithful_course responder jobs .none start).recordsBus,
    fun _ _ hworded => hworded.reads,
    fun job => job.reported hsound responder ledger.state⟩

/-- On a bus that refuses to write and delivers nothing but zeros, a write, a burst, a reading of
STATUS, and a wiper that is taken under control and then steps: what is refused is announced as
well, and the word is warned about. -/
theorem log_records_bus_of_zeros :
    let bus : Bus.Responder Unit := fun call _ => (match call with
      | .write _ => .error ⟨.notConnected, "nack"⟩
      | .writeRead _ length => .ok ⟨length, []⟩, ())
    let jobs : List Job := [.registers (.write 0xA 0x1FE), .registers (.pulse 0x6 .up (-3)),
      .registers .status, .start 0 .mcp4661 .b .volatileOnly (-1), .perform 0 (.increaseBy 3)]
    let events := course bus jobs .none ()
    (events.filterMap Event.line?).map Log.Line.render =
        ["TRACE write 0x0a <- 0x1fe", "TRACE decrement 0x06 by 3", "TRACE read 0x05 -> 0x000",
          "WARN Unexpected STATUS register contents: 0b000000000", "TRACE read 0x01 -> 0x000",
          "DEBUG MCP4661 channel B initialized at 0 (volatile only)",
          "DEBUG Channel B: stepping 3 times to 3", "TRACE increment 0x01 by 3"] ∧
      List.Forall₂ Announces
        ["TRACE write 0x0a <- 0x1fe", "TRACE decrement 0x06 by 3", "TRACE increment 0x01 by 3"]
        [.write [0xA1, 0xFE], .write [0x68, 0x68, 0x68], .write [0x14, 0x14, 0x14]] ∧
      List.Forall₂ Records ["TRACE read 0x05 -> 0x000", "TRACE read 0x01 -> 0x000"]
        [⟨.writeRead [0x5C] 2, .ok ⟨2, []⟩⟩, ⟨.writeRead [0x1C] 2, .ok ⟨2, []⟩⟩] := by
  intro bus jobs events
  obtain ⟨-, hrecords, -, -⟩ := log_records_bus bus jobs ()
  exact ⟨rfl, hrecords.announced, hrecords.recorded⟩

end Bench

end WiperDriver
