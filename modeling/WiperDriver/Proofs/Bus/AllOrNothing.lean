import WiperDriver.Proofs.Chip.Conversation

/-!
# Buses that fail cleanly

`Bus.AllOrNothing` is what a bus to one chip has to keep so that faults can be reasoned about: every
transaction either takes place as a whole and is answered as the chip answers it, or it leaves the
chip alone and is answered by a failure or by a reading of the wrong length. When and why it fails
is left to the bus, which may keep any state of its own.

`Whole` is what this makes of a dialogue: it ends as on the chip itself, or in a refusal with the
chip untouched. A dialogue with one transaction is whole, and so is one that looks before it
writes; `whole_read`, `whole_write`, `whole_pulse` and `whole_setTerminals` are these. A dialogue
with two writes is not, because the bus can fail between them.
-/

namespace WiperDriver

namespace Dialogue

variable {Call : Type} {Answer : Call → Type} {σ α : Type}

/-- A dialogue that makes no call. -/
def Quiet : Dialogue Call Answer α → Prop
  | .done _ => True
  | .say _ next => next.Quiet
  | .ask _ _ => False

/-- A dialogue without a call ends in one value, whoever would have answered. -/
theorem Quiet.run_eq {dialogue : Dialogue Call Answer α} (h : dialogue.Quiet) {τ : Type}
    (responder : Responder Call Answer σ) (other : Responder Call Answer τ) (state : σ)
    (state' : τ) :
    (dialogue.run responder state).value = (dialogue.run other state').value ∧
      (dialogue.run responder state).state = state := by
  induction dialogue with
  | done value => exact ⟨rfl, rfl⟩
  | say line next ih => exact ih h
  | ask call next => exact h.elim

/-- Whether a dialogue makes a call is so before anybody has answered. -/
theorem calls_eq_nil_iff (dialogue : Dialogue Call Answer α) (responder : Responder Call Answer σ)
    (state : σ) : (dialogue.run responder state).calls = [] ↔ dialogue.Quiet := by
  induction dialogue generalizing state with
  | done value => exact iff_of_true rfl trivial
  | say line next ih => exact ih state
  | ask call next => exact iff_of_false (List.cons_ne_nil _ _) id

end Dialogue

namespace Bus

variable {σ α β : Type}

/-- An answer that says that the transaction did not take place. -/
def Failed : (call : Call) → Answer call → Prop
  | .write _, answer => ∃ failure, answer = .error failure
  | .writeRead _ length, answer =>
    (∃ failure, answer = .error failure) ∨ ∃ reading, answer = .ok reading ∧ reading.count ≠ length

/-- A bus to one chip on which every transaction takes place as a whole or not at all. -/
structure AllOrNothing (responder : Responder σ) (chip : σ → Chip) : Prop where
  /-- A transaction is carried out by the chip, or it fails and the chip has not noticed. -/
  carried_or_failed : ∀ call state,
    (responder call state).1 = (Chip.respond call (chip state)).1 ∧
        chip (responder call state).2 = (Chip.respond call (chip state)).2 ∨
      Failed call (responder call state).1 ∧ chip (responder call state).2 = chip state

/-- The chip's own bus fails cleanly: it does not fail at all. -/
theorem AllOrNothing.respond : AllOrNothing Chip.respond id :=
  ⟨fun _ _ => .inl ⟨rfl, rfl⟩⟩

/-- A failure that the bus reports is one. -/
theorem failed_fail (failure : Failure) (call : Call) : Failed call (fail failure call) := by
  cases call with
  | write bytes => exact ⟨_, rfl⟩
  | writeRead bytes length => exact .inl ⟨_, rfl⟩

/-- A chip on a bus that carries out a number of transactions and fails from then on. -/
def cutOff (failure : Failure) : Responder (Chip × Nat)
  | call, (chip, 0) => (fail failure call, (chip, 0))
  | call, (chip, left + 1) => ((Chip.respond call chip).1, (Chip.respond call chip).2, left)

theorem AllOrNothing.cutOff (failure : Failure) : AllOrNothing (cutOff failure) Prod.fst := by
  refine ⟨fun call ⟨chip, left⟩ => ?_⟩
  cases left with
  | zero => exact .inr ⟨failed_fail failure call, rfl⟩
  | succ left => exact .inl ⟨rfl, rfl⟩

/-- A bus that fails cleanly still does so in shared hands, whether or not it is held. -/
theorem AllOrNothing.shared {responder : Responder σ} {chip : σ → Chip}
    (h : AllOrNothing responder chip) :
    AllOrNothing (Shared.respond responder) (fun shared => chip shared.bus) := by
  refine ⟨fun call shared => ?_⟩
  cases hheld : shared.held with
  | true =>
    rw [Shared.respond_held responder call hheld]
    exact .inr ⟨failed_fail Shared.busy call, rfl⟩
  | false =>
    rw [Shared.respond_free responder call hheld]
    exact h.carried_or_failed call shared.bus

/-! ## How a dialogue ends -/

/-- How a dialogue ends over a bus to a chip: its value and the chip afterwards. -/
def ending (responder : Responder σ) (chip : σ → Chip) (dialogue : Dialogue Call Answer α)
    (state : σ) : α × Chip :=
  ((dialogue.run responder state).value, chip (dialogue.run responder state).state)

variable {responder : Responder σ} {chip : σ → Chip}

/-- The rest of a dialogue decides how it ends. -/
theorem ending_bind (dialogue : Dialogue Call Answer α) (f : α → Dialogue Call Answer β)
    (state : σ) :
    ending responder chip (dialogue >>= f) state =
      ending responder chip (f (dialogue.run responder state).value)
        (dialogue.run responder state).state := by
  unfold ending
  rw [Dialogue.run_bind]

/-- A dialogue without a call ends over every bus as on any chip. -/
theorem ending_quiet {dialogue : Dialogue Call Answer α} (h : dialogue.Quiet) (state : σ)
    (other : Chip) :
    ending responder chip dialogue state = ((other.converse dialogue).1, chip state) := by
  obtain ⟨hvalue, hstate⟩ := h.run_eq responder Chip.respond state other
  exact Prod.ext hvalue (congrArg chip hstate)

/-- A dialogue without a call leaves a chip as it is. -/
theorem converse_quiet {dialogue : Dialogue Call Answer α} (h : dialogue.Quiet) (one other : Chip) :
    one.converse dialogue = ((other.converse dialogue).1, one) := by
  obtain ⟨hvalue, hstate⟩ := h.run_eq Chip.respond Chip.respond one other
  exact Prod.ext hvalue hstate

/-! ## Whole dialogues -/

/-- On every bus that fails cleanly a dialogue ends as on the chip itself, or it ends in a refusal
and has left the chip as it was. What counts as a refusal depends on the values of the dialogue. -/
structure Whole (refused : α → Prop) (dialogue : Dialogue Call Answer α) : Prop where
  ends : ∀ {σ : Type} {responder : Responder σ} {chip : σ → Chip}, AllOrNothing responder chip →
    ∀ state : σ,
      ending responder chip dialogue state = (chip state).converse dialogue ∨
        refused (ending responder chip dialogue state).1 ∧
          (ending responder chip dialogue state).2 = chip state

variable {refused : α → Prop} {refused' : β → Prop} {dialogue : Dialogue Call Answer α}
  {f : α → Dialogue Call Answer β}

/-- A dialogue without a call is whole: no bus can tell it from the chip itself. -/
theorem Whole.quiet (h : dialogue.Quiet) : Whole refused dialogue := by
  refine ⟨fun {σ responder chip} _ state => .inl ?_⟩
  rw [ending_quiet h state (chip state)]
  exact (converse_quiet h _ _).symm

/-- A line in front changes nothing. -/
theorem Whole.say (h : Whole refused dialogue) (line : Log.Line) :
    Whole refused (.say line dialogue) :=
  ⟨fun hbus state => h.ends hbus state⟩

/-- A dialogue of one transaction is whole if it takes every failure for a refusal. -/
theorem Whole.ask {call : Call} {next : Answer call → Dialogue Call Answer α}
    (hquiet : ∀ answer, (next answer).Quiet)
    (hfailed : ∀ answer, Failed call answer →
      ∀ chip : Chip, refused (chip.converse (next answer)).1) :
    Whole refused (.ask call next) := by
  refine ⟨fun {σ responder chip} hbus state => ?_⟩
  have hend : ending responder chip (.ask call next) state =
      ending responder chip (next (responder call state).1) (responder call state).2 := rfl
  have hchip : (chip state).converse (.ask call next) =
      (Chip.respond call (chip state)).2.converse (next (Chip.respond call (chip state)).1) := rfl
  rw [hend, hchip]
  rcases hbus.carried_or_failed call state with ⟨hanswer, hafter⟩ | ⟨hanswer, hafter⟩
  · left
    rw [← hanswer, ← hafter, ending_quiet (hquiet _) _ (chip state)]
    exact (converse_quiet (hquiet _) _ _).symm
  · right
    rw [ending_quiet (hquiet _) _ (chip state)]
    exact ⟨hfailed _ hanswer (chip state), hafter⟩

/-- A whole dialogue and a rest without a call are whole together, if the rest passes a refusal
on. -/
theorem Whole.bind_quiet (h : Whole refused dialogue) (hquiet : ∀ value, (f value).Quiet)
    (hpass : ∀ value, refused value → ∀ chip : Chip, refused' (chip.converse (f value)).1) :
    Whole refused' (dialogue >>= f) := by
  refine ⟨fun {σ responder chip} hbus state => ?_⟩
  rw [ending_bind, Chip.converse_bind, ending_quiet (hquiet _) _ (chip state)]
  rcases h.ends hbus state with hsame | ⟨hrefused, hafter⟩
  · left
    obtain ⟨hvalue, hstate⟩ := Prod.mk.inj hsame
    rw [hvalue, hstate]
    exact (converse_quiet (hquiet _) _ _).symm
  · exact .inr ⟨hpass _ hrefused (chip state), hafter⟩

/-- A whole dialogue that only looks, and a whole rest, are whole together, if the rest passes a
refusal on without a call. -/
theorem Whole.bind_look (h : Whole refused dialogue)
    (hlook : ∀ chip : Chip, (chip.converse dialogue).2 = chip)
    (hf : ∀ value, Whole refused' (f value))
    (hpass : ∀ value, refused value →
      (f value).Quiet ∧ ∀ chip : Chip, refused' (chip.converse (f value)).1) :
    Whole refused' (dialogue >>= f) := by
  refine ⟨fun {σ responder chip} hbus state => ?_⟩
  rw [ending_bind, Chip.converse_bind, hlook]
  rcases h.ends hbus state with hsame | ⟨hrefused, hafter⟩
  · obtain ⟨hvalue, hstate⟩ := Prod.ext_iff.1 hsame
    have hrest := (hf (dialogue.run responder state).value).ends hbus
      (dialogue.run responder state).state
    have hkept : chip (dialogue.run responder state).state = chip state :=
      hstate.trans (hlook (chip state))
    rw [hkept] at hrest
    rw [← hvalue]
    exact hrest
  · obtain ⟨hquiet, hvalue⟩ := hpass (dialogue.run responder state).value hrefused
    right
    rw [ending_quiet hquiet _ (chip state)]
    exact ⟨hvalue (chip state), hafter⟩

/-- An error is a refusal. -/
def Refused (result : Except Error α) : Prop :=
  ∃ error, result = .error error

end Bus

/-! ## Register operations -/

namespace Registers

open Bus (Whole Refused)

/-- A read is whole: a failure and a reading of another length both end it with an error. -/
theorem whole_read (address : UInt8) : Whole Refused (read address).run := by
  rw [run_read]
  cases Command.encode address .read with
  | error error => exact .quiet trivial
  | ok command =>
    refine .ask (fun answer => ?_) (fun answer hfailed chip => ?_)
    · cases answer with
      | error failure => trivial
      | ok reading =>
        simp only
        split <;> trivial
    · rcases hfailed with ⟨failure, rfl⟩ | ⟨reading, rfl, hcount⟩
      · exact ⟨_, rfl⟩
      · simp only [if_neg hcount]
        exact ⟨_, rfl⟩

/-- One write of bytes, reported beforehand, is whole. -/
theorem whole_send (line : Log.Line) (bytes : List UInt8) :
    Whole Refused (.say line (.ask (.write bytes) fun answer => .done (answer.mapError Error.io)) :
      Dialogue Bus.Call Bus.Answer (Except Error Unit)) := by
  refine Whole.say ?_ line
  refine .ask (fun _ => trivial) fun answer hfailed chip => ?_
  obtain ⟨failure, rfl⟩ := hfailed
  exact ⟨_, rfl⟩

theorem whole_write (address : UInt8) (value : UInt16) :
    Whole Refused (write address value).run := by
  rw [run_write]
  split
  · cases Command.encode address .write with
    | error error => exact .quiet trivial
    | ok command => exact whole_send _ _
  · exact .quiet trivial

theorem whole_pulse (address : UInt8) (direction : Direction) (steps : Int32) :
    Whole Refused (pulse address direction steps).run := by
  rw [run_pulse]
  split
  · exact .quiet trivial
  split
  · simp only
    split
    · exact .quiet trivial
    · exact whole_send _ _
  · exact .quiet trivial

theorem whole_status : Whole Refused status.run := by
  rw [run_status]
  refine (whole_read statusAddress).bind_quiet (fun result => ?_) (fun result hrefused chip => ?_)
  · cases result with
    | error error => trivial
    | ok word =>
      simp only
      split <;> trivial
  · obtain ⟨error, rfl⟩ := hrefused
    exact ⟨_, rfl⟩

theorem whole_terminals (channel : Channel) : Whole Refused (terminals channel).run := by
  rw [run_terminals, map_eq_pure_bind]
  have hread := whole_read channel.terminalAddress
  refine hread.bind_quiet (fun _ => trivial) fun result hrefused _ => ?_
  obtain ⟨error, rfl⟩ := hrefused
  exact ⟨_, rfl⟩

/-- A terminal setting is one look and one write, so a fault between the two costs nothing. -/
theorem whole_setTerminals (setting : Terminals) : Whole Refused (setTerminals setting).run := by
  rw [run_setTerminals]
  refine (whole_read setting.channel.terminalAddress).bind_look (fun chip => ?_) (fun result => ?_)
    fun result hrefused => ?_
  · rw [converse_read, if_pos setting.channel.terminalAddress_le]
  · cases result with
    | error error => exact .quiet trivial
    | ok word => exact whole_write _ _
  · obtain ⟨error, rfl⟩ := hrefused
    exact ⟨trivial, fun _ => ⟨_, rfl⟩⟩

end Registers

end WiperDriver
