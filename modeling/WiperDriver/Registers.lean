import WiperDriver.Bus
import WiperDriver.Command
import WiperDriver.Status
import WiperDriver.Terminals

/-!
# Register access

What can be asked of the chip register by register: reading, writing and pulsing one address, and
the same in terms of channels. Nothing is remembered between two operations and no value is bent
into range: an argument that does not fit is refused before anything is sent. A line about a write
or a burst precedes it, a line about a read follows the answer.
-/

namespace WiperDriver.Registers

/-- An operation on the chip's registers: a dialogue with the bus that may fail. -/
abbrev Program (α : Type) : Type :=
  ExceptT Error (Dialogue Bus.Call Bus.Answer) α

/-- Sends bytes to the chip. -/
def send (bytes : List UInt8) : Program Unit :=
  ExceptT.mk (Except.mapError Error.io <$> Dialogue.request (Bus.Call.write bytes))

/-- Sends bytes to the chip and receives some. -/
def fetch (bytes : List UInt8) (length : Nat) : Program Bus.Reading :=
  ExceptT.mk (Except.mapError Error.io <$> Dialogue.request (Bus.Call.writeRead bytes length))

/-- Reports a line. -/
def report (line : Log.Line) : Program Unit :=
  ExceptT.lift (Dialogue.note line)

/-- How many bytes a register is read in: the first holds bit 8, the second the others. -/
def wordLength : Nat :=
  2

/-- The highest value of a 9-bit register. -/
def maxWord : UInt16 :=
  0x1FF

/-- The longest burst: a full sweep of an 8-bit wiper. -/
def maxBurst : Nat :=
  256

/-! ## One address -/

/-- Reads a register. -/
def read (address : UInt8) : Program UInt16 := do
  let command ← Command.encode address .read
  let reading ← fetch [command] wordLength
  if reading.count = wordLength then
    let value := ((reading.byte 0).toUInt16 <<< 8) ||| (reading.byte 1).toUInt16
    report (.read address value)
    return value
  else
    throw (.unexpectedByteCount wordLength reading.count)

/-- Writes a register. The value is checked before the address. -/
def write (address : UInt8) (value : UInt16) : Program Unit := do
  if value ≤ maxWord then
    let command ← Command.encode address .write
    report (.write address value)
    send [command ||| (value >>> 8).toUInt8, value.toUInt8]
  else
    throw (.valueOutOfRange value)

/-- Sends a burst of pulses to an address, one command byte for each. A negative count reverses the
direction. No pulse at all is a success whatever the address, and the count is checked before the
address. -/
def pulse (address : UInt8) (direction : Direction) (steps : Int32) : Program Unit := do
  if steps = 0 then
    return ()
  else if steps.toInt.natAbs ≤ maxBurst then
    let count := steps.toInt.natAbs
    let direction := if steps < 0 then direction.reverse else direction
    let command ← Command.encode address (.ofDirection direction)
    report (.pulse direction address count)
    send (List.replicate count command)
  else
    throw (.stepsOutOfRange steps)

/-! ## Channels -/

/-- Reads the STATUS word; a word that is refused is also reported. -/
def status : Program Status := do
  let word ← read statusAddress
  match Status.ofWord word with
  | .ok status => return status
  | .error error =>
    report (.unexpectedStatus word)
    throw error

/-- Moves the wiper of a channel up. -/
def increase (channel : Channel) (steps : Int32) : Program Unit :=
  pulse channel.volatileAddress .up steps

/-- Moves the wiper of a channel down. -/
def decrease (channel : Channel) (steps : Int32) : Program Unit :=
  pulse channel.volatileAddress .down steps

/-- Reads the wiper position of a channel, or its EEPROM copy. -/
def value (channel : Channel) (nonVolatile : Bool) : Program UInt16 :=
  read (channel.wiperAddress nonVolatile)

/-- Writes the wiper position of a channel, or its EEPROM copy. -/
def setValue (channel : Channel) (value : UInt16) (nonVolatile : Bool) : Program Unit :=
  write (channel.wiperAddress nonVolatile) value

/-- Reads the terminal setting of a channel. -/
def terminals (channel : Channel) : Program Terminals := do
  return Terminals.ofWord channel (← read channel.terminalAddress)

/-- Changes the terminal setting of a channel. The register is shared with the sibling channel, so
it is read first and written back with only the channel's own bits changed. -/
def setTerminals (terminals : Terminals) : Program Unit := do
  let word ← read terminals.channel.terminalAddress
  write terminals.channel.terminalAddress (terminals.applyTo word)

/-- Sets or clears the wiper lock that covers a channel: a pulse on the non-volatile address, which
the chip takes for a lock command while its high-voltage pin is up. -/
def setLock (channel : Channel) (locked : Bool) : Program Unit :=
  pulse channel.nonVolatileAddress (.ofBool locked) 1

/-- Switches EEPROM write protection, under the same condition as a wiper lock. -/
def setProtection (enabled : Bool) : Program Unit :=
  pulse protectionAddress (.ofBool enabled) 1

end WiperDriver.Registers
