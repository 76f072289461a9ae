import WiperDriver.Bench.Step
import WiperDriver.Proofs.Wiper.FirstFailure

/-!
# Many callers on one bus

Callers come with jobs: they take control of wipers, use those that they have, and access the
registers directly. A wiper is kept under a number of the caller's choice, and there may be any
number of them, also of one channel. `serve` does jobs one after another over any bus and keeps an
entry of each. Whatever the bus answers, a job ends with the error of its first failed transaction,
and then no wiper has changed (`Job.prompt_run`).
-/

namespace WiperDriver.Bench

open Registers (AtMostTwo Order Prompt)

variable {σ : Type}

/-- The wipers under control, each under a number. -/
abbrev Handles : Type :=
  Nat → Option Wiper

namespace Handles

/-- Nobody has taken control yet. -/
def none : Handles :=
  fun _ => .none

/-- The wipers with one more, or another one, under a number. -/
def set (handles : Handles) (number : Nat) (wiper : Wiper) : Handles :=
  fun other => if other = number then some wiper else handles other

/-- A wiper that is put where it has been changes nothing. -/
theorem set_self {handles : Handles} {number : Nat} {wiper : Wiper}
    (h : handles number = some wiper) : handles.set number wiper = handles := by
  funext other
  unfold set
  split
  · next hother => rw [hother, h]
  · rfl

/-- A wiper of the handles was there before or has just been put there. -/
theorem eq_or_of_set {handles : Handles} {number other : Nat} {wiper found : Wiper}
    (h : handles.set number wiper other = some found) :
    found = wiper ∨ handles other = some found := by
  unfold set at h
  split at h
  · exact .inl (Option.some.inj h).symm
  · exact .inr h

end Handles

/-! ## Jobs -/

/-- Something that a caller wants done. -/
inductive Job where
  /-- An operation on the registers, which takes no wiper. -/
  | registers (operation : Registers.Operation)
  /-- To take control of a channel and to keep the wiper under a number. -/
  | start (number : Nat) (model : Model) (channel : Channel) (mode : Mode) (initial : Int32)
  /-- To ask for the known position of a wiper. -/
  | position (number : Nat)
  /-- An operation on a wiper. -/
  | perform (number : Nat) (operation : Wiper.Operation)
  deriving DecidableEq, Repr

/-- The wiper under control that a job is about. -/
def Job.wiper? (handles : Handles) : Job → Option Wiper
  | .position number | .perform number _ => handles number
  | .registers _ | .start _ _ _ _ _ => .none

/-- What a job does with the wipers under control. If control cannot be taken, the wiper that has
the number keeps it. -/
def Job.run : Job → Handles → Dialogue Bus.Call Bus.Answer (Answer × Handles)
  | .registers operation, handles =>
    (fun result => (.ofRegisters result, handles)) <$> operation.perform.run
  | .start number model channel mode initial, handles =>
    (fun
      | .ok wiper => (.opened number, handles.set number wiper)
      | .error error => (.refused error, handles)) <$> (Wiper.start model channel mode initial).run
  | .position number, handles =>
    .done (match handles number with
      | some wiper => .number wiper.position.toNat
      | .none => .badHandle, handles)
  | .perform number operation, handles =>
    match handles number with
    | some wiper =>
      (fun ended => (.ofWiper ended.1, handles.set number ended.2)) <$>
        operation.perform.run.run wiper
    | .none => .done (.badHandle, handles)

theorem Job.run_perform {handles : Handles} {number : Nat} {wiper : Wiper}
    (h : handles number = some wiper) (operation : Wiper.Operation) :
    (Job.perform number operation).run handles =
      (fun ended => (.ofWiper ended.1, handles.set number ended.2)) <$>
        operation.perform.run.run wiper := by
  simp only [run, h]

theorem Job.run_perform_of_none {handles : Handles} {number : Nat} (h : handles number = .none)
    (operation : Wiper.Operation) :
    (Job.perform number operation).run handles = .done (.badHandle, handles) := by
  simp only [run, h]

/-- The answer does not tell of a failed transaction. -/
def Answer.NotFromBus (answer : Answer) : Prop :=
  ∀ error, answer = .refused error → ¬ error.FromBus

theorem Answer.notFromBus_ofRegisters {result : Except Error Registers.Result}
    (h : ∀ error, result = .error error → ¬ error.FromBus) :
    (Answer.ofRegisters result).NotFromBus := by
  rintro error herror
  rcases result with refusal | (_ | _ | _ | _) <;> cases herror
  exact h _ rfl

theorem Answer.notFromBus_ofWiper {result : Except Error Wiper.Result}
    (h : ∀ error, result = .error error → ¬ error.FromBus) :
    (Answer.ofWiper result).NotFromBus := by
  rintro error herror
  rcases result with refusal | (_ | _ | _ | _) <;> cases herror
  exact h _ rfl

/-- **Every job stops at its first failed transaction**, passes its error on, and leaves the wipers
as they were. -/
theorem Job.prompt_run (job : Job) (handles : Handles) :
    Prompt AtMostTwo (fun error => (.refused error, handles)) (fun _ ended => ended.1.NotFromBus) []
      (job.run handles) := by
  cases job with
  | registers operation =>
    refine (Registers.prompt_perform operation).map (fun _ => rfl) fun after result hends => ?_
    refine Answer.notFromBus_ofRegisters fun error herror => ?_
    rw [herror] at hends
    exact hends
  | start number model channel mode initial =>
    have hstart : Prompt AtMostTwo .error (fun _ => Wiper.Begins model channel mode) [] _ :=
      (Wiper.prompt_start model channel mode initial).mono
        (by rintro _ _ (_ | _) <;> exact Nat.zero_lt_two) fun _ _ => id
    refine hstart.map (fun _ => rfl) ?_
    rintro after (error | wiper) (hends : Wiper.Begins _ _ _ _) error' ⟨⟩
    exact hends.not_fromBus
  | position number =>
    refine .done fun error herror => ?_
    cases hwiper : handles number <;> rw [hwiper] at herror <;> cases herror
  | perform number operation =>
    cases hwiper : handles number with
    | none =>
      rw [run_perform_of_none hwiper]
      exact .done nofun
    | some wiper =>
      have hperform : Prompt AtMostTwo (fun error => (Except.error error, wiper))
          (wiper.Ends (wiper.Refusal operation)) [] (operation.perform.run.run wiper) :=
        (Wiper.prompt_perform operation wiper).mono (fun _ _ => Wiper.Asks.length_past_lt)
          fun _ _ => id
      rw [run_perform hwiper]
      refine hperform.map (fun error => ?_) fun after ended hends => ?_
      · rw [Handles.set_self hwiper]
        rfl
      · refine Answer.notFromBus_ofWiper fun error herror => ?_
        unfold Wiper.Ends at hends
        rw [herror] at hends
        exact hends.1.not_fromBus

/-! ## One job after another -/

/-- What came of a job. -/
structure Entry where
  job : Job
  /-- The wiper that the job was about, as it was before. -/
  wiper : Option Wiper
  answer : Answer
  /-- The transactions of the job, each with its answer. -/
  exchanges : List ((call : Bus.Call) × Bus.Answer call)

/-- The transactions of a job. -/
def Entry.calls (entry : Entry) : List Bus.Call :=
  entry.exchanges.map Sigma.fst

/-- What a job leaves behind. -/
structure Finished (σ : Type) where
  entry : Entry
  handles : Handles
  /-- The state of the bus. -/
  state : σ

/-- Does a job over a bus. -/
def Job.serve (responder : Bus.Responder σ) (job : Job) (handles : Handles) (state : σ) :
    Finished σ :=
  let outcome := (job.run handles).run responder state
  { entry := ⟨job, job.wiper? handles, outcome.value.1, outcome.exchanges⟩
    handles := outcome.value.2
    state := outcome.state }

/-- An operation on a wiper, as a job. -/
theorem Job.serve_perform {handles : Handles} {number : Nat} {wiper : Wiper}
    (h : handles number = some wiper) (responder : Bus.Responder σ) (operation : Wiper.Operation)
    (state : σ) :
    (Job.perform number operation).serve responder handles state =
      let outcome := Wiper.attempt responder operation wiper state
      { entry := ⟨.perform number operation, some wiper, .ofWiper outcome.value.1,
          outcome.exchanges⟩
        handles := handles.set number outcome.value.2
        state := outcome.state } := by
  unfold serve
  rw [run_perform h, Dialogue.run_map, wiper?, h]
  rfl

/-- Without the wiper there is nothing to do. -/
theorem Job.serve_perform_of_none {handles : Handles} {number : Nat} (h : handles number = .none)
    (responder : Bus.Responder σ) (operation : Wiper.Operation) (state : σ) :
    (Job.perform number operation).serve responder handles state =
      ⟨⟨.perform number operation, .none, .badHandle, []⟩, handles, state⟩ := by
  unfold serve
  rw [run_perform_of_none h, wiper?, h]
  rfl

/-- What jobs leave behind. -/
structure Ledger (σ : Type) where
  entries : List Entry
  handles : Handles
  /-- The state of the bus. -/
  state : σ

/-- A ledger with an entry in front of the others. -/
def Ledger.after (entry : Entry) (ledger : Ledger σ) : Ledger σ :=
  { ledger with entries := entry :: ledger.entries }

/-- Does jobs over a bus, one after another. -/
def serve (responder : Bus.Responder σ) : List Job → Handles → σ → Ledger σ
  | [], handles, state => ⟨[], handles, state⟩
  | job :: later, handles, state =>
    let first := job.serve responder handles state
    (serve responder later first.handles first.state).after first.entry

theorem serve_cons (responder : Bus.Responder σ) (job : Job) (later : List Job) (handles : Handles)
    (state : σ) :
    serve responder (job :: later) handles state =
      (serve responder later (job.serve responder handles state).handles
          (job.serve responder handles state).state).after
        (job.serve responder handles state).entry :=
  rfl

/-- Every job has its entry. -/
theorem map_job_entries (responder : Bus.Responder σ) (jobs : List Job) (handles : Handles)
    (state : σ) : (serve responder jobs handles state).entries.map Entry.job = jobs := by
  induction jobs generalizing handles state with
  | nil => rfl
  | cons job later ih => exact congrArg (job :: ·) (ih _ _)

end WiperDriver.Bench
