import WiperDriver.Bus.Shared
import WiperDriver.Proofs.Bench.Handles

/-!
# A shared bus that is held

Between the jobs of many callers somebody may take hold of the bus and let go of it again. A job
that needs the bus meanwhile fails, and it fails as if it had never been asked for: the bus is not
touched and no wiper changes (`withheld`). So the jobs that failed this way can be struck out of a
run together with all holds and releases, and the rest of the run is the same (`play_erased`).

Whether a job needs the bus is settled before the first answer, so it is the same question whoever
holds the bus.
-/

namespace WiperDriver

variable {σ α : Type}

namespace Bus.Shared

/-- Using the bus neither takes hold of it nor lets go. -/
theorem held_run (responder : Responder σ) (dialogue : Dialogue Call Answer α)
    (shared : Shared σ) :
    (dialogue.run (respond responder) shared).state.held = shared.held := by
  induction dialogue generalizing shared with
  | done value => rfl
  | say line next ih => exact ih shared
  | ask call next ih =>
    rw [Dialogue.run_ask]
    refine (ih _ _).trans ?_
    cases hheld : shared.held with
    | true => rw [respond_held responder call hheld, hheld]
    | false => rw [respond_free responder call hheld, hheld]

end Bus.Shared

namespace Registers

open Bus (failure?)

/-- To the driver every failure of an order is an error of the bus. -/
theorem failure?_fail (order : Order) (failure : Failure) :
    failure? order.call (Bus.fail failure order.call) = some (.io failure) := by
  cases order <;> rfl

section

variable {permits : List Order → Order → Prop} {raise : Error → α} {ends : List Order → α → Prop}
  {past : List Order} {dialogue : Dialogue Bus.Call Bus.Answer α}

/-- A prompt dialogue that asks for nothing ends in one of the ways it may end without a failure. -/
theorem Prompt.ends_of_quiet (h : Prompt permits raise ends past dialogue)
    (hquiet : dialogue.Quiet) (responder : Bus.Responder σ) (state : σ) :
    ends past (dialogue.run responder state).value := by
  induction h with
  | done hvalue => exact hvalue
  | say _ _ ih => exact ih hquiet
  | ask => exact hquiet.elim

/-- **On a bus that is held a dialogue fails at its first order**, and the bus is as it was. -/
theorem Prompt.run_held (h : Prompt permits raise ends past dialogue) (hasks : ¬ dialogue.Quiet)
    (responder : Bus.Responder σ) (bus : σ) :
    let outcome := dialogue.run (Bus.Shared.respond responder) ⟨true, bus⟩
    outcome.value = raise (.io Bus.Shared.busy) ∧ outcome.state = ⟨true, bus⟩ := by
  induction h with
  | done => exact absurd trivial hasks
  | say line _ ih => exact ih hasks
  | @ask past order call next _ hcall hfailed =>
    subst hcall
    simp only
    rw [Dialogue.run_ask, Bus.Shared.respond_held responder order.call rfl,
      hfailed _ _ (failure?_fail order Bus.Shared.busy)]
    exact ⟨rfl, rfl⟩

end

end Registers

namespace Bench

open Bus (Shared)

/-! ## One job -/

/-- The answer tells of a transaction that failed because it would have had to wait. -/
def Answer.wouldBlock : Answer → Bool
  | .refused (.io failure) => failure.kind = .wouldBlock
  | _ => false

theorem Answer.NotFromBus.wouldBlock_eq_false {answer : Answer} (h : answer.NotFromBus) :
    answer.wouldBlock = false := by
  unfold Answer.wouldBlock
  split
  · exact absurd trivial (h _ rfl)
  · rfl

section

variable {job : Job} {handles : Handles}

/-- Whether a job uses the bus does not depend on the bus. -/
theorem Job.calls_eq_nil_iff (responder : Bus.Responder σ) (state : σ) :
    (job.serve responder handles state).entry.calls = [] ↔ (job.run handles).Quiet := by
  rw [← Dialogue.calls_eq_nil_iff _ responder state, Outcome.calls_eq]
  rfl

/-- **A job that does not use the bus** is answered alike over every bus, without an error of it. -/
theorem Job.serve_of_quiet (h : (job.run handles).Quiet) (responder : Bus.Responder σ) (state : σ) :
    ∃ answer handles', answer.NotFromBus ∧ ∀ state', job.serve responder handles state' =
      ⟨⟨job, job.wiper? handles, answer, []⟩, handles', state'⟩ := by
  refine ⟨_, ((job.run handles).run responder state).value.2,
    (job.prompt_run handles).ends_of_quiet h responder state, fun state' => ?_⟩
  obtain ⟨hvalue, hstate⟩ := h.run_eq responder responder state' state
  have hnone : ((job.run handles).run responder state').exchanges = [] :=
    List.map_eq_nil_iff.1 ((calls_eq_nil_iff responder state').2 h)
  unfold Job.serve
  simp only [hvalue, hstate, hnone]

/-- A job that uses the bus is blocked while it is held. -/
theorem Job.serve_of_not_quiet (h : ¬ (job.run handles).Quiet) (responder : Bus.Responder σ)
    (bus : σ) :
    let finished := job.serve (Shared.respond responder) handles ⟨true, bus⟩
    finished.entry.answer = .refused (.io Shared.busy) ∧ finished.handles = handles ∧
      finished.state = ⟨true, bus⟩ := by
  obtain ⟨hvalue, hstate⟩ := (job.prompt_run handles).run_held h responder bus
  exact ⟨congrArg Prod.fst hvalue, congrArg Prod.snd hvalue, hstate⟩

end

/-- How a job ends on a bus that is held, compared with the same job on the bus when it is free. -/
structure Withheld (handles : Handles) (bus : σ) (held free : Finished (Shared σ)) : Prop where
  /-- The bus is not touched. -/
  state : held.state = ⟨true, bus⟩
  /-- The job is blocked exactly if it would have used the bus. -/
  blocked_iff : held.entry.answer.wouldBlock = true ↔ free.entry.calls ≠ []
  /-- A job that is blocked leaves every wiper as it was. -/
  blocked : held.entry.answer.wouldBlock = true →
    held.entry.answer = .refused (.io Shared.busy) ∧ held.handles = handles
  /-- Any other job is done as usual. -/
  usual : held.entry.answer.wouldBlock = false →
    held.entry = free.entry ∧ held.handles = free.handles ∧ free.state = ⟨false, bus⟩

/-- **A held bus blocks the jobs that would use it, and leaves no trace of them.** -/
theorem withheld (responder : Bus.Responder σ) (job : Job) (handles : Handles) (bus : σ) :
    Withheld handles bus (job.serve (Shared.respond responder) handles ⟨true, bus⟩)
      (job.serve (Shared.respond responder) handles ⟨false, bus⟩) := by
  have hcalls : (job.serve (Shared.respond responder) handles ⟨false, bus⟩).entry.calls = [] ↔ _ :=
    Job.calls_eq_nil_iff _ _
  by_cases hquiet : (job.run handles).Quiet
  · obtain ⟨answer, handles', hanswer, hserve⟩ :=
      Job.serve_of_quiet hquiet (Shared.respond responder) ⟨true, bus⟩
    have hnot : ¬ answer.wouldBlock = true := Bool.eq_false_iff.1 hanswer.wouldBlock_eq_false
    rw [hserve, hserve]
    exact ⟨rfl, iff_of_false hnot (not_not_intro rfl), fun h => absurd h hnot,
      fun _ => ⟨rfl, rfl, rfl⟩⟩
  · obtain ⟨hanswer, hhandles, hstate⟩ := Job.serve_of_not_quiet hquiet responder bus
    have hblocked : (job.serve (Shared.respond responder) handles
        ⟨true, bus⟩).entry.answer.wouldBlock = true := by
      rw [hanswer]
      rfl
    refine ⟨hstate, iff_of_true hblocked (mt hcalls.1 hquiet), fun _ => ⟨hanswer, hhandles⟩, ?_⟩
    intro hnot
    rw [hblocked] at hnot
    cases hnot

/-! ## Runs with holds -/

/-- Something that happens to the bus. -/
inductive Move where
  /-- Somebody takes hold of it. -/
  | hold
  /-- They let go of it. -/
  | release
  /-- A job is done. -/
  | job (job : Job)
  deriving DecidableEq, Repr

/-- An entry of a job, and whether the bus was held at the time. -/
structure Note where
  held : Bool
  entry : Entry

/-- The job failed because the bus was held. -/
def Note.blocked (note : Note) : Bool :=
  note.held && note.entry.answer.wouldBlock

/-- What moves leave behind. -/
structure Journal (σ : Type) where
  notes : List Note
  handles : Handles
  /-- The state of the bus. -/
  state : Shared σ

/-- A journal with a note in front of the others. -/
def Journal.after (note : Note) (journal : Journal σ) : Journal σ :=
  { journal with notes := note :: journal.notes }

/-- Plays moves, one after another. -/
def play (responder : Bus.Responder σ) : List Move → Handles → Shared σ → Journal σ
  | [], handles, shared => ⟨[], handles, shared⟩
  | .hold :: later, handles, shared => play responder later handles { shared with held := true }
  | .release :: later, handles, shared => play responder later handles { shared with held := false }
  | .job job :: later, handles, shared =>
    let first := job.serve (Shared.respond responder) handles shared
    let rest := play responder later first.handles first.state
    rest.after ⟨shared.held, first.entry⟩

/-- The entries that are left of a journal when all that was blocked is struck out. -/
def Journal.kept (journal : Journal σ) : List Entry :=
  (journal.notes.filter (!·.blocked)).map Note.entry

/-- The jobs that are left of it. -/
def Journal.jobs (journal : Journal σ) : List Job :=
  journal.kept.map Entry.job

/-- A run without holds is what is left of another one: the entries that were not struck out, and in
the end the same wipers and the same bus. -/
structure Journal.Leaves (journal : Journal σ) (rest : Ledger (Shared σ)) : Prop where
  entries : rest.entries = journal.kept
  handles : rest.handles = journal.handles
  bus : rest.state.bus = journal.state.bus

section

variable {note : Note}

theorem Journal.kept_after_of_blocked (h : note.blocked = true) (journal : Journal σ) :
    (journal.after note).kept = journal.kept := by
  have hstruck : ¬ (!note.blocked) = true := by simp [h]
  exact congrArg (List.map Note.entry) (List.filter_cons_of_neg hstruck)

theorem Journal.kept_after_of_not_blocked (h : note.blocked = false) (journal : Journal σ) :
    (journal.after note).kept = note.entry :: journal.kept := by
  have hkept : (!note.blocked) = true := by simp [h]
  exact congrArg (List.map Note.entry) (List.filter_cons_of_pos hkept)

end

variable {responder : Bus.Responder σ} {job : Job} {handles : Handles} {shared : Shared σ}

/-- A job that is blocked changes nothing. -/
theorem serve_of_blocked
    (h : Note.blocked ⟨shared.held, (job.serve (Shared.respond responder) handles shared).entry⟩ =
      true) :
    (job.serve (Shared.respond responder) handles shared).handles = handles ∧
      (job.serve (Shared.respond responder) handles shared).state.bus = shared.bus := by
  obtain ⟨held, bus⟩ := shared
  obtain ⟨rfl, hblocked⟩ : held = true ∧ _ := Bool.and_eq_true_iff.1 h
  have hwithheld := withheld responder job handles bus
  exact ⟨(hwithheld.blocked hblocked).2, congrArg Shared.bus hwithheld.state⟩

/-- A job that is not blocked does the same on the bus when it is free. -/
theorem serve_of_not_blocked
    (h : Note.blocked ⟨shared.held, (job.serve (Shared.respond responder) handles shared).entry⟩ =
      false) :
    job.serve (Shared.respond responder) handles ⟨false, shared.bus⟩ =
      let finished := job.serve (Shared.respond responder) handles shared
      ⟨finished.entry, finished.handles, ⟨false, finished.state.bus⟩⟩ := by
  obtain ⟨held, bus⟩ := shared
  cases held with
  | true =>
    have hwithheld := withheld responder job handles bus
    obtain ⟨hentry, hhandles, hstate⟩ := hwithheld.usual h
    simp only
    rw [hentry, hhandles, hwithheld.state]
    exact congrArg (Finished.mk _ _) hstate
  | false =>
    have hfree : (job.serve (Shared.respond responder) handles ⟨false, bus⟩).state.held = false :=
      Shared.held_run responder _ _
    simp only
    exact congrArg (Finished.mk _ _) (congrArg (Shared.mk · _) hfree)

/-- **A run is the same without its holds and what they blocked.** -/
theorem play_erased (responder : Bus.Responder σ) (moves : List Move) (handles : Handles)
    (shared : Shared σ) :
    let journal := play responder moves handles shared
    journal.Leaves (serve (Shared.respond responder) journal.jobs handles ⟨false, shared.bus⟩) := by
  induction moves generalizing handles shared with
  | nil => exact ⟨rfl, rfl, rfl⟩
  | cons move later ih =>
    cases move with
    | hold => exact ih handles { shared with held := true }
    | release => exact ih handles { shared with held := false }
    | job job =>
      let first := job.serve (Shared.respond responder) handles shared
      let rest := play responder later first.handles first.state
      show (rest.after ⟨shared.held, first.entry⟩).Leaves
        (serve _ (rest.after ⟨shared.held, first.entry⟩).jobs handles ⟨false, shared.bus⟩)
      have hrest : rest.Leaves (serve _ rest.jobs first.handles ⟨false, first.state.bus⟩) :=
        ih first.handles first.state
      cases hblocked : Note.blocked ⟨shared.held, first.entry⟩ with
      | true =>
        obtain ⟨hhandles, hbus⟩ := serve_of_blocked hblocked
        have hkept := rest.kept_after_of_blocked hblocked
        have hjobs : (rest.after ⟨shared.held, first.entry⟩).jobs = rest.jobs :=
          congrArg (List.map Entry.job) hkept
        rw [hjobs, ← hhandles, ← hbus]
        exact ⟨hrest.entries.trans hkept.symm, hrest.handles, hrest.bus⟩
      | false =>
        have hkept := rest.kept_after_of_not_blocked hblocked
        have hjobs : (rest.after ⟨shared.held, first.entry⟩).jobs = job :: rest.jobs :=
          congrArg (List.map Entry.job) hkept
        rw [hjobs, serve_cons, serve_of_not_blocked hblocked]
        exact ⟨(congrArg (first.entry :: ·) hrest.entries).trans hkept.symm, hrest.handles,
          hrest.bus⟩

/-! ## The result -/

/-- The known position of a wiper, and the change of its mode, take no bus. -/
inductive Job.Local : Job → Prop
  | position (number : Nat) : Local (.position number)
  | setMode (number : Nat) (mode : Mode) : Local (.perform number (.setMode mode))

theorem Job.Local.quiet {job : Job} (h : job.Local) (handles : Handles) :
    (job.run handles).Quiet := by
  cases h with
  | position number => trivial
  | setMode number mode =>
    cases hwiper : handles number with
    | none =>
      rw [Job.run_perform_of_none hwiper]
      trivial
    | some wiper =>
      rw [Job.run_perform hwiper, Wiper.Operation.perform, Wiper.run_wrap, Wiper.run_setMode]
      cases wiper.model.checkMode mode <;> trivial

/-- **A bus that is held makes jobs fail as if they had never been asked for.** Whatever the bus
answers when it is free, faults included:

* while it is held no job touches it, and a job fails for having to wait exactly if it would have
  used the bus otherwise; no wiper then changes, and any other job is done as usual;
* the known position can always be asked for, and the mode always be changed;
* of any run with holds and releases between the jobs of any number of callers, strike out the
  holds, the releases and the jobs that failed because of them. The same wipers and the same bus end
  a run of the other jobs, and each of these has the same entry. -/
theorem held_bus_leaves_no_trace (responder : Bus.Responder σ) :
    (∀ (job : Job) (handles : Handles) (bus : σ),
      Withheld handles bus (job.serve (Shared.respond responder) handles ⟨true, bus⟩)
        (job.serve (Shared.respond responder) handles ⟨false, bus⟩)) ∧
    (∀ (job : Job) (handles : Handles) (bus : σ), job.Local →
      (job.serve (Shared.respond responder) handles ⟨true, bus⟩).entry.answer.wouldBlock = false) ∧
    ∀ (moves : List Move) (handles : Handles) (shared : Shared σ),
      let journal := play responder moves handles shared
      journal.Leaves
        (serve (Shared.respond responder) journal.jobs handles ⟨false, shared.bus⟩) := by
  refine ⟨withheld responder, fun job handles bus hlocal => ?_, play_erased responder⟩
  obtain ⟨answer, handles', hanswer, hserve⟩ :=
    Job.serve_of_quiet (hlocal.quiet handles) (Shared.respond responder) ⟨true, bus⟩
  rw [hserve]
  exact hanswer.wouldBlock_eq_false

/-- A move that falls into a hold fails, and steps that follow start from where the wiper was: they
end where they would have ended without the move. Where the wiper stands is told all the time. -/
theorem held_bus_leaves_no_trace_of_move :
    let wiper : Wiper := ⟨.mcp4651, .a, .volatileOnly, 10⟩
    let handles : Handles := Handles.none.set 0 wiper
    let chip : Chip := ⟨Chip.powerUp.set 0 10, 256⟩
    let steps : Job := .perform 0 (.increaseBy 2)
    let moves : List Move := [.hold, .job (.perform 0 (.moveTo 99)), .release, .job steps]
    let journal := play Chip.respond moves handles ⟨false, chip⟩
    let ledger := serve (Shared.respond Chip.respond) [steps] handles ⟨false, chip⟩
    journal.notes.map (·.blocked) = [true, false] ∧ journal.handles = ledger.handles ∧
      journal.state.bus = ledger.state.bus ∧ journal.state.bus.register 0 = 12 ∧
        ((Job.position 0).serve (Shared.respond Chip.respond) handles
          ⟨true, chip⟩).entry.answer.wouldBlock = false := by
  intro wiper handles chip steps moves journal ledger
  obtain ⟨-, hlocal, hleaves⟩ := held_bus_leaves_no_trace Chip.respond
  have hjournal : journal.Leaves (serve _ journal.jobs handles ⟨false, chip⟩) :=
    hleaves moves handles ⟨false, chip⟩
  have hjobs : journal.jobs = [steps] := by decide +kernel
  rw [hjobs] at hjournal
  exact ⟨by decide +kernel, hjournal.handles.symm, hjournal.bus.symm, by decide +kernel,
    hlocal _ handles chip (.position 0)⟩

end Bench

end WiperDriver
