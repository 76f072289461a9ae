import WiperDriver.Proofs.Bench.Holding
import WiperDriver.Proofs.Bench.Sessions
import WiperDriver.Proofs.Bus.Interfaces

/-!
# Counts of bytes

A job is refused for an unexpected count of bytes only if a read of its own has delivered one
(`Job.not_miscounted`). Over the two bus interfaces no read ever does, so no job in any run is
(`interfaces_exact`): whatever the bus behind the interface answers, whoever holds it in between,
and however many callers there are.
-/

namespace WiperDriver.Bench

open Bus (Fills Interfaced Shared)

variable {σ : Type} {responder : Bus.Responder σ}

/-- The answer tells of a read that delivered another number of bytes than a register has. -/
def Answer.Miscounted (answer : Answer) : Prop :=
  ∃ expected actual, answer = .refused (.unexpectedByteCount expected actual)

/-- The failure of an order of which the bus has delivered all bytes is not one of counting. -/
theorem failure?_of_fills (h : Fills responder) {order : Registers.Order}
    {answer : Bus.Answer order.call} {state : σ} (hanswer : (responder order.call state).1 = answer)
    (expected actual : Nat) :
    Bus.failure? order.call answer ≠ some (.unexpectedByteCount expected actual) := by
  intro hfailed
  cases order with
  | read address =>
    rcases answer with failure | reading
    · cases hfailed
    · rw [Bus.failure?_reading, if_pos (h _ _ state reading hanswer)] at hfailed
      cases hfailed
  | write address value => rcases answer with failure | ⟨⟨⟩⟩ <;> cases hfailed
  | pulse address direction count hcount => rcases answer with failure | ⟨⟨⟩⟩ <;> cases hfailed

/-- **A job over a bus that delivers what is asked for does not end in a miscount.** -/
theorem Job.not_miscounted (h : Fills responder) (job : Job) (handles : Handles) (state : σ) :
    ¬ (job.serve responder handles state).entry.answer.Miscounted := by
  rintro ⟨expected, actual, hanswer⟩
  change ((job.run handles).run responder state).value.1 = _ at hanswer
  cases (job.prompt_run handles).ending responder state with
  | smooth orders _ hends => exact hends _ hanswer trivial
  | broken orders before order answer error hexchanges _ _ hfailed hvalue =>
    rw [hvalue] at hanswer
    cases hanswer
    have hlast : ⟨order.call, answer⟩ ∈ ((job.run handles).run responder state).exchanges := by
      rw [hexchanges]
      exact List.mem_append_right _ (List.mem_singleton_self _)
    obtain ⟨state', hstate'⟩ := Dialogue.answered_by hlast
    exact failure?_of_fills h hstate' expected actual hfailed

/-- What holds of the entry of any one job holds of every entry of a run. -/
theorem forall_entries {P : Entry → Prop}
    (h : ∀ job handles state, P (Job.serve responder job handles state).entry) (jobs : List Job)
    (handles : Handles) (state : σ) : ∀ entry ∈ (serve responder jobs handles state).entries,
      P entry := by
  induction jobs generalizing handles state with
  | nil =>
    intro entry hentry
    cases hentry
  | cons job later ih =>
    rw [serve_cons]
    show ∀ entry ∈ _ :: Ledger.entries _, P entry
    exact List.forall_mem_cons.2 ⟨h job handles state, ih _ _⟩

/-- And of every note of a run in which somebody may hold the bus. -/
theorem forall_notes {P : Entry → Prop}
    (h : ∀ job handles shared, P (Job.serve (Shared.respond responder) job handles shared).entry)
    (moves : List Move) (handles : Handles) (shared : Shared σ) :
    ∀ note ∈ (play responder moves handles shared).notes, P note.entry := by
  induction moves generalizing handles shared with
  | nil =>
    intro note hnote
    cases hnote
  | cons move later ih =>
    cases move with
    | hold | release => exact ih _ _
    | job job =>
      show ∀ note ∈ _ :: Journal.notes _, P note.entry
      exact List.forall_mem_cons.2 ⟨h job handles shared, ih _ _⟩

/-- **The two bus interfaces are exact.** Take any setting of the address pins. The slave address is
in the block of eight that the family owns and loses nothing as a byte. Over a bus that takes whole
transactions, and over one with two blocking calls, each of any number of transactions of the driver
is one call of the bus with that address and the same bytes, which succeeds exactly if the call
does, and reports the whole buffer or the error, whatever the bus does and in whatever state
(`Transactional.Conveys`, `Blocking.Conveys`).

Therefore no job of any run over such a bus, lent or shared in any way, on registers or wipers, is
answered with an unexpected count of bytes, also where the bus is held and let go in between. -/
theorem interfaces_exact :
    (∀ pins : Pins, pins.slaveAddress.toUInt8.toNat = pins.slaveAddress.toNat ∧
      0x28 ≤ pins.slaveAddress.toNat ∧ pins.slaveAddress.toNat ≤ 0x2F) ∧
    (∀ {σ α : Type} (pins : Pins)
      (responder : Responder Bus.Transactional.Call Bus.Transactional.Answer σ)
      (dialogue : Dialogue Bus.Call Bus.Answer α) (state : σ),
      Conveyed (Bus.Transactional.Conveys pins.slaveAddress.toUInt8)
        (dialogue.run (responder.through (Bus.Transactional.adapter pins)) state)
        ((dialogue.adapt (Bus.Transactional.adapter pins)).run responder state)) ∧
    (∀ {σ α : Type} (pins : Pins)
      (responder : Responder Bus.Blocking.Call Bus.Blocking.Answer σ)
      (dialogue : Dialogue Bus.Call Bus.Answer α) (state : σ),
      Conveyed (Bus.Blocking.Conveys pins.slaveAddress.toUInt8)
        (dialogue.run (responder.through (Bus.Blocking.adapter pins)) state)
        ((dialogue.adapt (Bus.Blocking.adapter pins)).run responder state)) ∧
    ∀ {σ : Type} {responder : Bus.Responder σ}, Interfaced responder →
      (∀ jobs handles state, ∀ entry ∈ (serve responder jobs handles state).entries,
        ¬ entry.answer.Miscounted) ∧
      ∀ moves handles shared, ∀ note ∈ (play responder moves handles shared).notes,
        ¬ note.entry.answer.Miscounted := by
  refine ⟨fun pins => ⟨Session.toNat_slaveAddress pins, pins.slaveAddress_range⟩,
    Bus.Transactional.conveyed, Bus.Blocking.conveyed, fun h => ⟨?_, ?_⟩⟩
  · exact forall_entries (P := fun entry => ¬ entry.answer.Miscounted)
      (Job.not_miscounted h.fills)
  · exact forall_notes (P := fun entry => ¬ entry.answer.Miscounted)
      (Job.not_miscounted h.shared.fills)

/-- A bus that takes whole transactions and succeeds without delivering anything, shared by jobs of
which one comes while it is held: they are answered with a word of zeros and with a busy bus. -/
theorem interfaces_exact_of_nothing :
    let bus : Responder Bus.Transactional.Call Bus.Transactional.Answer Unit :=
      fun _ _ => (.ok [], ())
    let responder := bus.through (Bus.Transactional.adapter ⟨true, false, true⟩)
    let read : Job := .registers (.read 0)
    let notes := (play responder [.job read, .hold, .job read] Handles.none ⟨false, ()⟩).notes
    Interfaced responder ∧
      notes.map (·.entry.answer) = [.number 0, .refused (.io Shared.busy)] ∧
      ∀ note ∈ notes, ¬ note.entry.answer.Miscounted := by
  intro bus responder read notes
  have hinterfaced : Interfaced responder := .transactional ⟨true, false, true⟩ bus
  obtain ⟨-, -, -, hcounts⟩ := interfaces_exact
  refine ⟨hinterfaced, rfl, ?_⟩
  exact (hcounts hinterfaced).2 [.job read, .hold, .job read] Handles.none ⟨false, ()⟩

end WiperDriver.Bench
