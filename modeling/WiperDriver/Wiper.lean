import WiperDriver.Model.Admission
import WiperDriver.Registers

/-!
# Wipers

A wiper under control: one channel of one chip, with the position of its volatile register kept
beside it, so that asking for the position costs no transaction. Positions asked for are bent into
the range of the chip. The kept position only changes after a transaction on the volatile register
has succeeded; an operation that fails leaves it, and the mode, as they were.

A step is carried out in one of two ways: a few positions by a burst of pulses, many positions, or
a move that ends at a limit, by writing the new position, which also brings a wiper that has drifted
away from the kept position back to it.
-/

namespace WiperDriver

/-- A wiper under control. -/
structure Wiper where
  model : Model
  channel : Channel
  mode : Mode
  /-- The last known position of the volatile register. -/
  position : UInt16
  deriving DecidableEq, Repr, Inhabited

namespace Wiper

/-- An operation on a wiper: a dialogue with the bus that may fail and may change the wiper. What it
changed before it failed stays changed, so that failing operations leave no trace is a fact about
each of them. -/
abbrev Program (α : Type) : Type :=
  ExceptT Error (StateT Wiper (Dialogue Bus.Call Bus.Answer)) α

/-- An operation on the registers as one on the wiper, which does not change it. -/
def access {α : Type} (program : Registers.Program α) : Program α :=
  ExceptT.mk (StateT.lift program.run)

/-- The longest burst that is worth its bytes; a longer step is a single write. -/
def maxBurst : UInt32 :=
  5

/-! ## Properties -/

/-- The nearest position of the chip to a requested one. -/
def clamp (wiper : Wiper) (value : Int32) : UInt16 :=
  UInt16.ofNat (min value.toInt.toNat wiper.model.maxValue.toNat)

/-- The wiper with a position read from the chip; a position above the chip's range counts as the
highest one. -/
def withReading (wiper : Wiper) (value : UInt16) : Wiper :=
  { wiper with position := min value wiper.model.maxValue }

/-! ## Taking control -/

/-- Takes control of a channel. On a chip with EEPROM the wiper already stands where the chip put it
at power-up, so its position is read and the initial value ignored; on any other chip the wiper is
moved to the initial value. -/
def start (model : Model) (channel : Channel) (mode : Mode) (initial : Int32) :
    Registers.Program Wiper := do
  model.checkChannel channel
  model.checkMode mode
  let wiper : Wiper := { model, channel, mode, position := 0 }
  let wiper ←
    if model.hasEeprom then do
      let value ← Registers.value channel false
      pure (wiper.withReading value)
    else do
      let value := wiper.clamp initial
      Registers.setValue channel value false
      pure { wiper with position := value }
  Registers.report (.initialized model channel wiper.position mode)
  return wiper

/-! ## Moving -/

/-- Reads the position from the chip. -/
def update : Program UInt16 := do
  let wiper ← get
  let value ← access (Registers.value wiper.channel false)
  set (wiper.withReading value)
  return (wiper.withReading value).position

/-- Moves the wiper to a value bent into range. In the mode that targets EEPROM alone the wiper does
not move, so its known position stays. -/
def moveTo (value : Int32) : Program Unit := do
  let wiper ← get
  let position := wiper.clamp value
  match wiper.mode with
  | .volatileOnly =>
    access (Registers.setValue wiper.channel position false)
    set { wiper with position }
  | .nonVolatileOnly =>
    access (Registers.setValue wiper.channel position true)
  | .volatileAndNonVolatile =>
    access (Registers.setValue wiper.channel position false)
    access (Registers.setValue wiper.channel position true)
    set { wiper with position }

/-- The limit of a move in a direction. -/
def limit (wiper : Wiper) : Direction → UInt16
  | .up => wiper.model.maxValue
  | .down => 0

/-- How far the limit of a direction is away. -/
def room (wiper : Wiper) : Direction → UInt16
  | .up => wiper.model.maxValue - wiper.position
  | .down => wiper.position

/-- The position after some steps in a direction. -/
def moved (wiper : Wiper) (direction : Direction) (steps : UInt16) : UInt16 :=
  match direction with
  | .up => wiper.position + steps
  | .down => wiper.position - steps

/-- Moves the wiper by some steps, stopping at the limit. There are pulses for the volatile register
only, so any other mode is refused, even for no steps at all. -/
def step (direction : Direction) (steps : UInt32) : Program Unit := do
  let wiper ← get
  if wiper.mode ≠ .volatileOnly then
    throw .volatileOnly
  else if steps = 0 ∨ wiper.room direction = 0 then
    return ()
  else
    let count := (min steps (wiper.room direction).toUInt32).toUInt16
    let position := wiper.moved direction count
    if position = wiper.limit direction ∨ steps > maxBurst then
      access (Registers.report (.writingStep wiper.channel position steps))
      moveTo (Int32.ofNat position.toNat)
    else
      access (Registers.report (.stepping wiper.channel count position))
      match direction with
      | .up => access (Registers.increase wiper.channel (Int32.ofNat count.toNat))
      | .down => access (Registers.decrease wiper.channel (Int32.ofNat count.toNat))
      set { wiper with position }

/-- Moves the wiper up by some steps. -/
def increaseBy (steps : UInt32) : Program Unit :=
  step .up steps

/-- Moves the wiper down by some steps. -/
def decreaseBy (steps : UInt32) : Program Unit :=
  step .down steps

/-- Changes the registers that later moves are written to. -/
def setMode (mode : Mode) : Program Unit := do
  let wiper ← get
  wiper.model.checkMode mode
  set { wiper with mode }

/-! ## The chip around the wiper -/

/-- Reads the EEPROM copy of the position. -/
def nonVolatileValue : Program UInt16 := do
  let wiper ← get
  wiper.model.checkEeprom
  access (Registers.value wiper.channel true)

/-- Reads the STATUS word as far as it concerns the wiper. -/
def status : Program ChannelStatus := do
  let wiper ← get
  let status ← access Registers.status
  return status.forChannel wiper.channel

/-- Reads the terminal setting. -/
def terminals : Program Terminals := do
  let wiper ← get
  access (Registers.terminals wiper.channel)

/-- Changes the terminal setting; a setting of another channel is refused. -/
def setTerminals (terminals : Terminals) : Program Unit := do
  let wiper ← get
  if terminals.channel = wiper.channel then
    access (Registers.setTerminals terminals)
  else
    throw (.channelMismatch wiper.channel terminals.channel)

/-- Sets or clears the wiper lock. -/
def setLock (locked : Bool) : Program Unit := do
  let wiper ← get
  wiper.model.checkEeprom
  access (Registers.setLock wiper.channel locked)

/-- Switches EEPROM write protection, which covers the whole chip. -/
def setProtection (enabled : Bool) : Program Unit := do
  let wiper ← get
  wiper.model.checkEeprom
  access (Registers.setProtection enabled)

end Wiper

end WiperDriver
