import WiperDriver.Proofs.Registers.Bank
import WiperDriver.Proofs.Registers.Orders
import WiperDriver.Proofs.Bus.AllOrNothing
import WiperDriver.Proofs.Wiper.Conversation

/-!
# Arguments are judged before the bus is asked

Register access and the taking of control look at their arguments first: some are refused, no pulse
at all is a success, and every other call goes on to exactly one transaction. `Judged` states this
for one dialogue, as equivalences that hold over every bus; `judged_read`, `judged_write`,
`judged_pulse` and `judged_start` are the four operations that judge. Where several arguments are
wrong at once, the order of the checks decides, and the conditions below spell it out.
-/

namespace WiperDriver

namespace Dialogue

variable {Call : Type} {Answer : Call → Type} {σ α β : Type}

/-- A dialogue that makes one call, however it is answered. -/
def Once : Dialogue Call Answer α → Prop
  | .done _ => False
  | .say _ next => next.Once
  | .ask _ next => ∀ answer, (next answer).Quiet

theorem Once.length_calls {dialogue : Dialogue Call Answer α} (h : dialogue.Once)
    (responder : Responder Call Answer σ) (state : σ) :
    (dialogue.run responder state).calls.length = 1 := by
  induction dialogue with
  | done value => exact h.elim
  | say line next ih => exact ih h
  | ask call next =>
    have hrest := (calls_eq_nil_iff (next (responder call state).1) responder
      (responder call state).2).2 (h _)
    exact congrArg (fun calls => (call :: calls).length) hrest

theorem Quiet.bind {dialogue : Dialogue Call Answer α} (h : dialogue.Quiet)
    {f : α → Dialogue Call Answer β} (hf : ∀ value, (f value).Quiet) :
    (dialogue >>= f).Quiet := by
  induction dialogue with
  | done value => exact hf value
  | say line next ih => exact ih h
  | ask call next => exact h.elim

theorem Once.bind_quiet {dialogue : Dialogue Call Answer α} (h : dialogue.Once)
    {f : α → Dialogue Call Answer β} (hf : ∀ value, (f value).Quiet) :
    (dialogue >>= f).Once := by
  induction dialogue with
  | done value => exact h.elim
  | say line next ih => exact ih h
  | ask call next => exact fun answer => (h answer).bind hf

end Dialogue

/-! ## Judging -/

/-- How a dialogue judges its arguments, over every bus in every state. -/
structure Judged {α : Type} (idle : Prop) (refuses : Error → Prop)
    (dialogue : Dialogue Bus.Call Bus.Answer (Except Error α)) : Prop where
  /-- It succeeds without a transaction exactly if there is nothing to do. -/
  idle_iff : ∀ {σ : Type} (responder : Bus.Responder σ) (state : σ),
    let outcome := dialogue.run responder state
    outcome.calls = [] ∧ (∃ value, outcome.value = .ok value) ↔ idle
  /-- It fails without a transaction exactly with the errors that the arguments are refused with. -/
  refused_iff : ∀ {σ : Type} (responder : Bus.Responder σ) (state : σ) (error : Error),
    let outcome := dialogue.run responder state
    outcome.calls = [] ∧ outcome.value = .error error ↔ refuses error
  /-- In all remaining cases it asks for exactly one transaction. -/
  asks_once : ∀ {σ : Type} (responder : Bus.Responder σ) (state : σ),
    ¬ idle → (∀ error, ¬ refuses error) → (dialogue.run responder state).calls.length = 1

section
variable {α : Type} {idle : Prop} {refuses : Error → Prop}
  {dialogue : Dialogue Bus.Call Bus.Answer (Except Error α)}

/-- A dialogue that is over at once with an error. -/
theorem judged_refused (error : Error) (hdone : dialogue = .done (.error error)) (hidle : ¬ idle)
    (hrefuses : ∀ other, refuses other ↔ other = error) : Judged idle refuses dialogue := by
  subst hdone
  refine ⟨fun _ _ => ?_, fun _ _ other => ?_, fun _ _ _ hnone => ?_⟩
  · exact iff_of_false (fun ⟨_, _, hvalue⟩ => nomatch hvalue) hidle
  · rw [hrefuses other]
    exact ⟨fun h => (Except.error.inj h.2).symm, fun h => ⟨rfl, congrArg _ h.symm⟩⟩
  · exact absurd ((hrefuses error).2 rfl) (hnone error)

/-- A dialogue that is over at once with success. -/
theorem judged_idle {value : α} (hdone : dialogue = .done (.ok value)) (hidle : idle)
    (hrefuses : ∀ error, ¬ refuses error) : Judged idle refuses dialogue := by
  subst hdone
  refine ⟨fun _ _ => ?_, fun _ _ error => ?_, fun _ _ hnot => absurd hidle hnot⟩
  · exact iff_of_true ⟨rfl, value, rfl⟩ hidle
  · exact iff_of_false (fun h => nomatch h.2) (hrefuses error)

/-- A dialogue that asks for one transaction. -/
theorem judged_once (honce : dialogue.Once) (hidle : ¬ idle)
    (hrefuses : ∀ error, ¬ refuses error) : Judged idle refuses dialogue := by
  have hlength {σ : Type} (responder : Bus.Responder σ) (state : σ) :
      (dialogue.run responder state).calls.length = 1 := honce.length_calls responder state
  have hcalls {σ : Type} (responder : Bus.Responder σ) (state : σ) :
      (dialogue.run responder state).calls ≠ [] :=
    fun hnil => by simpa [hnil] using hlength responder state
  refine ⟨fun responder state => ?_, fun responder state error => ?_,
    fun responder state _ _ => hlength responder state⟩
  · exact iff_of_false (fun h => hcalls responder state h.1) hidle
  · exact iff_of_false (fun h => hcalls responder state h.1) (hrefuses error)

end

/-! ## Register access -/

namespace Registers

/-- What a read refuses: an address of more than four bits. -/
def RefusesRead (address : UInt8) (error : Error) : Prop :=
  15 < address.toNat ∧ error = .invalidAddress address

/-- What a write refuses: a value of more than nine bits, and only then the address. -/
def RefusesWrite (address : UInt8) (value : UInt16) (error : Error) : Prop :=
  if 0x1FF < value.toNat then error = .valueOutOfRange value
  else 15 < address.toNat ∧ error = .invalidAddress address

/-- What a burst refuses: more than 256 pulses, counted without their sign, and only then the
address. No pulse at all is never refused. -/
def RefusesPulse (address : UInt8) (steps : Int32) (error : Error) : Prop :=
  if 256 < steps.toInt.natAbs then error = .stepsOutOfRange steps
  else steps ≠ 0 ∧ 15 < address.toNat ∧ error = .invalidAddress address

/-- An address of at most four bits, as the command byte checks it. -/
theorem le_maxAddress_of_not_lt {address : UInt8} (h : ¬ 15 < address.toNat) :
    address ≤ Command.maxAddress :=
  (le_maxAddress_iff address).2 (by omega)

/-- A longer address is refused by the command byte. -/
theorem encode_of_lt {address : UInt8} (h : 15 < address.toNat) (operation : Command.Operation) :
    Command.encode address operation = .error (.invalidAddress address) :=
  Command.encode_eq_error_iff.2 ⟨h, rfl⟩

theorem once_read {address : UInt8} (h : address ≤ Command.maxAddress) :
    (read address).run.Once := by
  rw [run_read_of_le h]
  intro answer
  cases answer with
  | error failure => trivial
  | ok reading =>
    dsimp only
    split <;> trivial

theorem once_write {address : UInt8} (h : address ≤ Command.maxAddress) {value : UInt16}
    (hvalue : value ≤ maxWord) : (write address value).run.Once := by
  rw [run_write_of_le h hvalue]
  exact fun _ => trivial

theorem once_pulse {address : UInt8} (h : address ≤ Command.maxAddress) {steps : Int32}
    (hzero : steps ≠ 0) (hsteps : steps.toInt.natAbs ≤ maxBurst) (direction : Direction) :
    (pulse address direction steps).run.Once := by
  rw [run_pulse, if_neg hzero, if_pos hsteps]
  simp only [Command.encode_of_le h]
  exact fun _ => trivial

/-- A read judges the address. -/
theorem judged_read (address : UInt8) : Judged False (RefusesRead address) (read address).run := by
  by_cases h : 15 < address.toNat
  · refine judged_refused (.invalidAddress address) ?_ not_false fun _ => and_iff_right h
    rw [run_read, encode_of_lt h]
  · exact judged_once (once_read (le_maxAddress_of_not_lt h)) not_false fun _ hrefuses =>
      h hrefuses.1

/-- A write judges the value and then the address. -/
theorem judged_write (address : UInt8) (value : UInt16) :
    Judged False (RefusesWrite address value) (write address value).run := by
  unfold RefusesWrite
  by_cases hvalue : 0x1FF < value.toNat
  · simp only [if_pos hvalue]
    refine judged_refused _ (run_write_of_not_le ?_ address) not_false fun _ => Iff.rfl
    exact fun hle => (le_maxWord_iff value).1 hle hvalue
  simp only [if_neg hvalue]
  have hle : value ≤ maxWord := (le_maxWord_iff value).2 hvalue
  by_cases h : 15 < address.toNat
  · refine judged_refused (.invalidAddress address) ?_ not_false fun _ => and_iff_right h
    rw [run_write, if_pos hle, encode_of_lt h]
  · exact judged_once (once_write (le_maxAddress_of_not_lt h) hle) not_false fun _ hrefuses =>
      h hrefuses.1

/-- A burst judges the number of pulses and then the address. -/
theorem judged_pulse (address : UInt8) (direction : Direction) (steps : Int32) :
    Judged (steps = 0) (RefusesPulse address steps) (pulse address direction steps).run := by
  unfold RefusesPulse
  by_cases hzero : steps = 0
  · subst hzero
    exact judged_idle (run_pulse address direction 0) rfl fun _ h => h.1 rfl
  by_cases hsteps : 256 < steps.toInt.natAbs
  · simp only [if_pos hsteps]
    refine judged_refused _ ?_ hzero fun _ => Iff.rfl
    have hnot : ¬ steps.toInt.natAbs ≤ maxBurst := Nat.not_le.2 hsteps
    rw [run_pulse, if_neg hzero, if_neg hnot]
  simp only [if_neg hsteps]
  have hle : steps.toInt.natAbs ≤ maxBurst := Nat.not_lt.1 hsteps
  by_cases h : 15 < address.toNat
  · refine judged_refused (.invalidAddress address) ?_ hzero fun _ =>
      ⟨fun hrefuses => hrefuses.2.2, fun heq => ⟨hzero, h, heq⟩⟩
    rw [run_pulse, if_neg hzero, if_pos hle]
    simp only [encode_of_lt h]
  · exact judged_once (once_pulse (le_maxAddress_of_not_lt h) hzero hle direction) hzero
      fun _ hrefuses => h hrefuses.2.1

/-- Up to a full sweep, a count of pulses has an opposite. -/
theorem toInt_neg_of_le {steps : Int32} (h : steps.toInt.natAbs ≤ 256) :
    (-steps).toInt = -steps.toInt := by
  rw [Int32.toInt_neg]
  exact Int.bmod_eq_of_le (by omega) (by omega)

/-- Pulses one way are as many pulses of the opposite sign the other way: the same course of events,
whatever the address. -/
theorem run_pulse_reverse (address : UInt8) (direction : Direction) {steps : Int32}
    (h : steps.toInt.natAbs ≤ 256) :
    (pulse address direction steps).run = (pulse address direction.reverse (-steps)).run := by
  have hneg : (-steps).toInt = -steps.toInt := toInt_neg_of_le h
  by_cases hzero : steps = 0
  · subst hzero
    rfl
  have hnonzero : steps.toInt ≠ 0 := fun hint => hzero (Int32.toInt_inj.1 hint)
  have hzero' : ¬ -steps = 0 := by
    rw [← Int32.toInt_inj, hneg]
    exact fun hint => hnonzero (Int.neg_eq_zero.1 hint)
  have hheading : heading direction.reverse (-steps) = heading direction steps := by
    rw [heading_eq, heading_eq, hneg]
    rcases Int.lt_or_gt_of_ne hnonzero with hlt | hgt
    · rw [if_neg (by omega), if_pos hlt]
    · rw [if_pos (by omega), if_neg (by omega), Direction.reverse_reverse]
  have hcount : (-steps).toInt.natAbs = steps.toInt.natAbs := by rw [hneg, Int.natAbs_neg]
  unfold heading at hheading
  have hle : steps.toInt.natAbs ≤ maxBurst := h
  rw [run_pulse, run_pulse, if_neg hzero, if_neg hzero', hcount, if_pos hle, if_pos hle]
  simp only [hheading]

end Registers

/-! ## Taking control -/

namespace Wiper

/-- What the taking of control refuses: a channel the chip does not carry, and only then a mode that
needs EEPROM on a chip without. -/
def RefusesStart (model : Model) (channel : Channel) (mode : Mode) (error : Error) : Prop :=
  if model.hasChannel channel then
    mode ≠ .volatileOnly ∧ model.hasEeprom = false ∧ error = .nonVolatileNotSupported
  else error = .unsupportedChannel channel

/-- Taking control asks for one transaction once the channel and the mode are admitted. -/
theorem once_start {model : Model} {channel : Channel} {mode : Mode}
    (hchannel : model.checkChannel channel = .ok ()) (hmode : model.checkMode mode = .ok ())
    (initial : Int32) : (start model channel mode initial).run.Once := by
  rw [run_start, hchannel, hmode]
  dsimp only
  split
  · refine (Registers.once_read channel.volatileAddress_le).bind_quiet fun result => ?_
    cases result <;> trivial
  · refine (Registers.once_write channel.volatileAddress_le
      (clamp_le_maxWord _ _)).bind_quiet fun result => ?_
    cases result <;> trivial

/-- Taking control judges the channel and then the mode. -/
theorem judged_start (model : Model) (channel : Channel) (mode : Mode) (initial : Int32) :
    Judged False (RefusesStart model channel mode) (start model channel mode initial).run := by
  unfold RefusesStart
  by_cases hchannel : model.hasChannel channel = true
  · simp only [if_pos hchannel]
    have hadmitted : model.checkChannel channel = .ok () := Model.checkChannel_eq_ok_iff.2 hchannel
    by_cases hmode : mode = .volatileOnly ∨ model.hasEeprom = true
    · refine judged_once (once_start hadmitted (Model.checkMode_eq_ok_iff.2 hmode) initial)
        not_false fun _ hrefuses => ?_
      rcases hmode with hmode | heeprom
      · exact hrefuses.1 hmode
      · exact absurd heeprom (by simp [hrefuses.2.1])
    · obtain ⟨hmode, heeprom⟩ := not_or.1 hmode
      have heeprom : model.hasEeprom = false := Bool.eq_false_iff.2 heeprom
      refine judged_refused .nonVolatileNotSupported ?_ not_false fun _ =>
        ⟨fun hrefuses => hrefuses.2.2, fun heq => ⟨hmode, heeprom, heq⟩⟩
      have hrefused : model.checkMode mode = .error .nonVolatileNotSupported := by
        simp [Model.checkMode, Model.checkEeprom, hmode, heeprom]
      rw [run_start, hadmitted, hrefused]
  · simp only [if_neg hchannel]
    refine judged_refused _ ?_ not_false fun _ => Iff.rfl
    have hrefused : model.checkChannel channel = .error (.unsupportedChannel channel) :=
      if_neg hchannel
    rw [run_start, hrefused]

end Wiper

/-! ## All arguments -/

/-- **Arguments are judged before the bus is asked.** Over every bus in every state: a read fails
without a transaction exactly for an address above 15; a write exactly for a value above 0x1FF,
which is checked first, or for such an address; a burst exactly for a count whose absolute value, as
an integer, is above 256, which is checked first, or for such an address, unless there is no pulse
at all, which is the one success without a transaction, whatever the address. Pulses up are as many
pulses of the opposite sign down, in every respect. Taking control fails without a transaction
exactly for a channel that the chip does not carry, which is checked first, or for a mode that needs
EEPROM on a chip without. In every other case there is exactly one transaction. -/
theorem arguments_judged :
    (∀ address, Judged False (Registers.RefusesRead address) (Registers.read address).run) ∧
    (∀ address value, Judged False (Registers.RefusesWrite address value)
      (Registers.write address value).run) ∧
    (∀ address direction steps, Judged (steps = 0) (Registers.RefusesPulse address steps)
      (Registers.pulse address direction steps).run) ∧
    (∀ channel (steps : Int32), steps.toInt.natAbs ≤ 256 →
      (Registers.increase channel steps).run = (Registers.decrease channel (-steps)).run) ∧
    ∀ model channel mode initial, Judged False (Wiper.RefusesStart model channel mode)
      (Wiper.start model channel mode initial).run :=
  ⟨Registers.judged_read, Registers.judged_write, Registers.judged_pulse,
    fun channel _ h => Registers.run_pulse_reverse channel.volatileAddress .up h,
    Wiper.judged_start⟩

/-- The lowest count of pulses, which has no opposite, is refused before the address that is wrong
as well; a full sweep has one. -/
theorem arguments_judged_lowest :
    let lowest :=
      (Registers.pulse 16 .up Int32.minValue).run.run Chip.respond ⟨.replicate 16 7, 256⟩
    (lowest.calls = [] ∧ lowest.value = .error (.stepsOutOfRange Int32.minValue)) ∧
      (-256 : Int32).toInt.natAbs ≤ 256 ∧
      (Registers.increase .a (-256)).run = (Registers.decrease .a 256).run := by
  intro lowest
  obtain ⟨-, -, hpulse, hopposite, -⟩ := arguments_judged
  have hcount : (-256 : Int32).toInt.natAbs ≤ 256 := by decide
  have hrefuses : Registers.RefusesPulse 16 Int32.minValue (.stepsOutOfRange Int32.minValue) := by
    unfold Registers.RefusesPulse
    rw [if_pos (by decide)]
  exact ⟨((hpulse 16 .up Int32.minValue).refused_iff _ _ _).2 hrefuses, hcount,
    hopposite .a (-256) hcount⟩

end WiperDriver
