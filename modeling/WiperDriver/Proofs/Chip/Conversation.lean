import WiperDriver.Bus.Shared
import WiperDriver.Proofs.Chip.Commands

/-!
# Conversations with a chip

`Chip.converse` is the run of a dialogue on a chip whose bus never fails. On such a bus every
register operation has one possible course, so each has an equation that gives its result and the
chip afterwards: `converse_read`, `converse_write` and `converse_pulse` are the three that touch the
bus, and every other one follows from them. A bus in shared hands that nobody holds is no different
(`run_shared`).
-/

namespace WiperDriver

/-! ## The registers of a channel -/

namespace Channel

/-- The register that holds the wiper position. -/
def volatileSlot (channel : Channel) : Fin 16 :=
  Chip.slot channel.volatileAddress

/-- The register that holds the EEPROM copy of the position. -/
def nonVolatileSlot (channel : Channel) : Fin 16 :=
  Chip.slot channel.nonVolatileAddress

/-- The terminal control register of the channel and its sibling. -/
def terminalSlot (channel : Channel) : Fin 16 :=
  Chip.slot channel.terminalAddress

/-! No two of these registers are one, and none is the STATUS register. -/

theorem volatileSlot_ne {one other : Channel} (h : one ≠ other) :
    one.volatileSlot ≠ other.volatileSlot := by
  revert h
  cases one <;> cases other <;> decide

theorem nonVolatileSlot_ne {one other : Channel} (h : one ≠ other) :
    one.nonVolatileSlot ≠ other.nonVolatileSlot := by
  revert h
  cases one <;> cases other <;> decide

theorem nonVolatileSlot_ne_volatileSlot (one other : Channel) :
    one.nonVolatileSlot ≠ other.volatileSlot := by
  cases one <;> cases other <;> decide

theorem terminalSlot_ne_volatileSlot (one other : Channel) :
    one.terminalSlot ≠ other.volatileSlot := by
  cases one <;> cases other <;> decide

theorem terminalSlot_ne_nonVolatileSlot (one other : Channel) :
    one.terminalSlot ≠ other.nonVolatileSlot := by
  cases one <;> cases other <;> decide

theorem status_ne_volatileSlot (channel : Channel) : 5 ≠ channel.volatileSlot := by
  cases channel <;> decide

theorem status_ne_nonVolatileSlot (channel : Channel) : 5 ≠ channel.nonVolatileSlot := by
  cases channel <;> decide

theorem status_ne_terminalSlot (channel : Channel) : 5 ≠ channel.terminalSlot := by
  cases channel <;> decide

theorem volatileAddress_le (channel : Channel) :
    channel.volatileAddress ≤ Command.maxAddress := by
  cases channel <;> decide

theorem nonVolatileAddress_le (channel : Channel) :
    channel.nonVolatileAddress ≤ Command.maxAddress := by
  cases channel <;> decide

theorem terminalAddress_le (channel : Channel) :
    channel.terminalAddress ≤ Command.maxAddress := by
  cases channel <;> decide

/-- The STATUS flag that locks the wipers of the channel's side. -/
def lockFlag (channel : Channel) : UInt16 :=
  match channel.side with
  | .even => 0x2
  | .odd => 0x4

/-- A volatile register is no STATUS flag: pulses move it. -/
theorem flag?_volatileSlot (channel : Channel) : Chip.flag? channel.volatileSlot = none := by
  cases channel <;> rfl

/-- Pulses at an EEPROM address are lock commands. -/
theorem flag?_nonVolatileSlot (channel : Channel) :
    Chip.flag? channel.nonVolatileSlot = some channel.lockFlag := by
  cases channel <;> rfl

end Channel

namespace Chip

variable {α β : Type}

/-- A conversation with a chip on a bus that never fails: its value and the chip afterwards. -/
def converse (chip : Chip) (dialogue : Dialogue Bus.Call Bus.Answer α) : α × Chip :=
  let outcome := dialogue.run respond chip
  (outcome.value, outcome.state)

@[simp] theorem converse_done (chip : Chip) (value : α) :
    chip.converse (.done value) = (value, chip) :=
  rfl

@[simp] theorem converse_say (chip : Chip) (line : Log.Line)
    (next : Dialogue Bus.Call Bus.Answer α) :
    chip.converse (.say line next) = chip.converse next :=
  rfl

@[simp] theorem converse_ask_write (chip : Chip) (bytes : List UInt8)
    (next : Except Failure Unit → Dialogue Bus.Call Bus.Answer α) :
    chip.converse (.ask (.write bytes) next) = (chip.absorb bytes).converse (next (.ok ())) :=
  rfl

@[simp] theorem converse_ask_writeRead (chip : Chip) (bytes : List UInt8) (length : Nat)
    (next : Except Failure Bus.Reading → Dialogue Bus.Call Bus.Answer α) :
    chip.converse (.ask (.writeRead bytes length) next) =
      (chip.absorb bytes).converse
        (next (.ok ⟨length, (chip.absorb bytes).answer bytes length⟩)) :=
  rfl

/-- A conversation of two parts is one after the other. -/
theorem converse_bind (chip : Chip) (dialogue : Dialogue Bus.Call Bus.Answer α)
    (f : α → Dialogue Bus.Call Bus.Answer β) :
    chip.converse (dialogue >>= f) =
      (chip.converse dialogue).2.converse (f (chip.converse dialogue).1) := by
  unfold converse
  rw [Dialogue.run_bind]

/-- Changing the value of a conversation changes nothing else. -/
theorem converse_map (chip : Chip) (f : α → β) (dialogue : Dialogue Bus.Call Bus.Answer α) :
    chip.converse (f <$> dialogue) =
      (f (chip.converse dialogue).1, (chip.converse dialogue).2) := by
  rw [map_eq_pure_bind, converse_bind]
  rfl

/-- Things done one after another are the first and then the others. -/
theorem converse_mapM_cons {ι σ : Type} (chip : Chip)
    (f : ι → StateT σ (Dialogue Bus.Call Bus.Answer) α) (first : ι) (others : List ι) (state : σ) :
    chip.converse (((first :: others).mapM f).run state) =
      let ended := chip.converse ((f first).run state)
      let rest := ended.2.converse ((others.mapM f).run ended.1.2)
      ((ended.1.1 :: rest.1.1, rest.1.2), rest.2) := by
  rw [List.mapM_cons, StateT.run_bind, converse_bind]
  simp only
  rw [StateT.run_bind, converse_bind]
  rfl

/-- A bus in shared hands that nobody holds is the bus itself. -/
theorem run_shared (chip : Chip) (dialogue : Dialogue Bus.Call Bus.Answer α) :
    (dialogue.run (Bus.Shared.respond respond) ⟨false, chip⟩).value =
        (chip.converse dialogue).1 ∧
      (dialogue.run (Bus.Shared.respond respond) ⟨false, chip⟩).state =
        ⟨false, (chip.converse dialogue).2⟩ := by
  induction dialogue generalizing chip with
  | done value => exact ⟨rfl, rfl⟩
  | say line next ih => exact ih chip
  | ask call next ih =>
    rw [Dialogue.run_ask, Bus.Shared.respond_free respond call rfl]
    exact ih _ _

end Chip

/-! ## Register operations -/

namespace Registers

open Chip (slot)

/-- Reading gives the register and leaves the chip as it is. -/
theorem converse_read (chip : Chip) (address : UInt8) :
    chip.converse (read address).run =
      if address ≤ Command.maxAddress then (.ok (chip.register (slot address)), chip)
      else (.error (.invalidAddress address), chip) := by
  rw [run_read]
  by_cases ha : address ≤ Command.maxAddress
  · have hc := Command.encode_of_le ha .read
    rw [if_pos ha, hc]
    simp only [Chip.converse_ask_writeRead, Chip.absorb_read hc, if_true, Chip.converse_say,
      Chip.converse_done, Chip.word_answer hc]
  · rw [if_neg ha, Command.encode_of_not_le ha]
    rfl

/-- Writing sets the register; a value is refused before an address. -/
theorem converse_write (chip : Chip) (address : UInt8) (value : UInt16) :
    chip.converse (write address value).run =
      if value ≤ maxWord then
        if address ≤ Command.maxAddress then (.ok (), chip.setRegister (slot address) value)
        else (.error (.invalidAddress address), chip)
      else (.error (.valueOutOfRange value), chip) := by
  rw [run_write]
  by_cases hv : value ≤ maxWord
  · rw [if_pos hv, if_pos hv]
    by_cases ha : address ≤ Command.maxAddress
    · have hc := Command.encode_of_le ha .write
      rw [if_pos ha, hc]
      simp only [Chip.converse_say, Chip.converse_ask_write, Chip.absorb_write hc hv]
      rfl
    · rw [if_neg ha, Command.encode_of_not_le ha]
      rfl
  · rw [if_neg hv, if_neg hv]
    rfl

/-- The direction that a signed count of pulses amounts to. -/
def heading (direction : Direction) (steps : Int32) : Direction :=
  if steps < 0 then direction.reverse else direction

/-- Pulsing is a burst; no pulse at all succeeds whatever the address, and a count is refused before
an address. -/
theorem converse_pulse (chip : Chip) (address : UInt8) (direction : Direction) (steps : Int32) :
    chip.converse (pulse address direction steps).run =
      if steps = 0 then (.ok (), chip)
      else if steps.toInt.natAbs ≤ maxBurst then
        if address ≤ Command.maxAddress then
          (.ok (), chip.burst (slot address) (heading direction steps) steps.toInt.natAbs)
        else (.error (.invalidAddress address), chip)
      else (.error (.stepsOutOfRange steps), chip) := by
  rw [run_pulse]
  by_cases hz : steps = 0
  · rw [if_pos hz, if_pos hz]
    rfl
  rw [if_neg hz, if_neg hz]
  by_cases hb : steps.toInt.natAbs ≤ maxBurst
  · rw [if_pos hb, if_pos hb]
    have hpos : 0 < steps.toInt.natAbs :=
      Int.natAbs_pos.2 fun h => hz (Int32.toInt_inj.1 h)
    by_cases ha : address ≤ Command.maxAddress
    · have hc := Command.encode_of_le ha (.ofDirection (heading direction steps))
      have hd := Chip.decode_pulse hc
      have hheading :
          (if steps < 0 then direction.reverse else direction) = heading direction steps := rfl
      rw [if_pos ha]
      simp only [hheading, hc]
      simp only [Chip.converse_say, Chip.converse_ask_write, Chip.absorb_burst hd hpos]
      rfl
    · rw [if_neg ha]
      simp only [Command.encode_of_not_le ha]
      rfl
  · rw [if_neg hb, if_neg hb]
    rfl

/-- Reading the status takes the STATUS word apart. -/
theorem converse_status (chip : Chip) :
    chip.converse status.run = (Status.ofWord (chip.register 5), chip) := by
  have hslot : slot statusAddress = 5 := rfl
  rw [run_status, Chip.converse_bind, converse_read, if_pos (by decide), hslot]
  simp only
  cases Status.ofWord (chip.register 5) <;> rfl

/-! ## Operations on a channel -/

theorem converse_volatileValue (chip : Chip) (channel : Channel) :
    chip.converse (value channel false).run = (.ok (chip.register channel.volatileSlot), chip) := by
  show chip.converse (read channel.volatileAddress).run = _
  rw [converse_read, if_pos channel.volatileAddress_le]
  rfl

theorem converse_nonVolatileValue (chip : Chip) (channel : Channel) :
    chip.converse (value channel true).run =
      (.ok (chip.register channel.nonVolatileSlot), chip) := by
  show chip.converse (read channel.nonVolatileAddress).run = _
  rw [converse_read, if_pos channel.nonVolatileAddress_le]
  rfl

theorem converse_setVolatileValue {position : UInt16} (h : position ≤ maxWord) (chip : Chip)
    (channel : Channel) :
    chip.converse (setValue channel position false).run =
      (.ok (), chip.setRegister channel.volatileSlot position) := by
  show chip.converse (write channel.volatileAddress position).run = _
  rw [converse_write, if_pos h, if_pos channel.volatileAddress_le]
  rfl

theorem converse_setNonVolatileValue {position : UInt16} (h : position ≤ maxWord) (chip : Chip)
    (channel : Channel) :
    chip.converse (setValue channel position true).run =
      (.ok (), chip.setRegister channel.nonVolatileSlot position) := by
  show chip.converse (write channel.nonVolatileAddress position).run = _
  rw [converse_write, if_pos h, if_pos channel.nonVolatileAddress_le]
  rfl

theorem converse_terminals (chip : Chip) (channel : Channel) :
    chip.converse (terminals channel).run =
      (.ok (Terminals.ofWord channel (chip.register channel.terminalSlot)), chip) := by
  rw [run_terminals, Chip.converse_map, converse_read, if_pos channel.terminalAddress_le]
  rfl

/-- A terminal setting is merged into the word that is read, and the merged word written unless it
is too wide for the register. -/
theorem converse_setTerminals (chip : Chip) (setting : Terminals) :
    chip.converse (setTerminals setting).run =
      let slot := setting.channel.terminalSlot
      let word := setting.applyTo (chip.register slot)
      if word ≤ maxWord then (.ok (), chip.setRegister slot word)
      else (.error (.valueOutOfRange word), chip) := by
  rw [run_setTerminals, Chip.converse_bind, converse_read,
    if_pos setting.channel.terminalAddress_le]
  simp only
  rw [converse_write, if_pos setting.channel.terminalAddress_le]
  rfl

@[simp] theorem decide_ofBool_eq_up (on : Bool) : decide (Direction.ofBool on = .up) = on := by
  cases on <;> rfl

/-- A lock command sets or clears the lock flag of the channel's side. -/
theorem converse_setLock (chip : Chip) (channel : Channel) (locked : Bool) :
    chip.converse (setLock channel locked).run =
      (.ok (), chip.setRegister 5 (assign (chip.register 5) channel.lockFlag locked)) := by
  show chip.converse (pulse channel.nonVolatileAddress (.ofBool locked) 1).run = _
  rw [converse_pulse, if_neg (by decide), if_pos (by decide), if_pos channel.nonVolatileAddress_le]
  show (_, chip.burst channel.nonVolatileSlot _ _) = _
  rw [Chip.burst_of_some channel.flag?_nonVolatileSlot, heading, if_neg (by decide),
    decide_ofBool_eq_up]

/-- A protection command sets or clears the protection flag. -/
theorem converse_setProtection (chip : Chip) (enabled : Bool) :
    chip.converse (setProtection enabled).run =
      (.ok (), chip.setRegister 5 (assign (chip.register 5) 0x1 enabled)) := by
  show chip.converse (pulse protectionAddress (.ofBool enabled) 1).run = _
  have hflag : Chip.flag? (slot protectionAddress) = some 0x1 := rfl
  rw [converse_pulse, if_neg (by decide), if_pos (by decide), if_pos (by decide),
    Chip.burst_of_some hflag, heading, if_neg (by decide), decide_ofBool_eq_up]

end Registers

end WiperDriver
