import WiperDriver.Bus
import WiperDriver.Direction

/-!
# The chip

Sixteen registers behind a stream of command bytes. A sent transaction is decoded command by
command: a write takes one data byte, a pulse none, and a read command ends the stream, because what
follows it on the wires is the chip's answer. A pulse moves a wiper by one position and stops at
either end; on the EEPROM addresses it sets or clears a lock flag instead.

The decoder works on the bytes alone and knows nothing of how a command is put together.
-/

namespace WiperDriver

/-- The registers of a chip, and the highest position a pulse moves a wiper to. -/
structure Chip where
  registers : Vector UInt16 16
  limit : UInt16
  deriving DecidableEq, Repr

namespace Chip

/-- A decoded command. -/
inductive Instruction where
  /-- Stores a value whose ninth bit is the flag and whose other bits are the next byte. -/
  | store (address : Fin 16) (high : Bool)
  | pulse (address : Fin 16) (direction : Direction)
  | read (address : Fin 16)
  deriving DecidableEq, Repr

/-- The register that a command is about. -/
def Instruction.address : Instruction → Fin 16
  | .store address _ | .pulse address _ | .read address => address

/-- Decodes a command byte: the address is its high nibble, the operation the two bits below it. -/
def decode (command : UInt8) : Instruction :=
  let address : Fin 16 := ⟨command.toNat / 16, by have := command.toNat_lt; omega⟩
  match command.toNat / 4 % 4 with
  | 0 => .store address (command.toNat % 2 = 1)
  | 1 => .pulse address .up
  | 2 => .pulse address .down
  | _ => .read address

/-- The register at an address. -/
def register (chip : Chip) (address : Fin 16) : UInt16 :=
  chip.registers[address]

/-- The chip with a register changed. -/
def setRegister (chip : Chip) (address : Fin 16) (value : UInt16) : Chip :=
  { chip with registers := chip.registers.set address value }

/-- The position one above another, but not above the limit. -/
def above (limit value : UInt16) : UInt16 :=
  UInt16.ofNat (min (value.toNat + 1) limit.toNat)

/-- The position one below another, but not below zero. -/
def below (value : UInt16) : UInt16 :=
  UInt16.ofNat (value.toNat - 1)

/-- The STATUS flag that pulses on an address set and clear: the two wiper locks on the EEPROM
addresses of their channels, write protection on the last address. -/
def flag? (address : Fin 16) : Option UInt16 :=
  match address with
  | 2 | 8 => some 0x2
  | 3 | 9 => some 0x4
  | 15 => some 0x1
  | _ => none

/-- The chip after one pulse. -/
def pulse (chip : Chip) (address : Fin 16) (direction : Direction) : Chip :=
  match flag? address, direction with
  | some flag, .up => chip.setRegister 5 (chip.register 5 ||| flag)
  | some flag, .down => chip.setRegister 5 (chip.register 5 &&& ~~~flag)
  | none, .up => chip.setRegister address (above chip.limit (chip.register address))
  | none, .down => chip.setRegister address (below (chip.register address))

/-- The chip after the bytes of a transaction. A store without its data byte has no effect. -/
def absorb (chip : Chip) : List UInt8 → Chip
  | [] => chip
  | command :: rest =>
    match decode command, rest with
    | .store _ _, [] => chip
    | .store address high, data :: rest =>
      (chip.setRegister address ((if high then 0x100 else 0) ||| data.toUInt16)).absorb rest
    | .pulse address direction, rest => (chip.pulse address direction).absorb rest
    | .read _, _ => chip

/-- What the chip sends after a command: the addressed register, high byte and low byte by turns,
for as long as it is asked. Register zero answers where there is no command. -/
def answer (chip : Chip) (command : List UInt8) (length : Nat) : List UInt8 :=
  let word := chip.register (decode (command.headD 0)).address
  (List.range length).map fun index =>
    if index % 2 = 0 then (word >>> 8).toUInt8 else word.toUInt8

/-- A chip on a bus of its own that never fails. -/
def respond : Bus.Responder Chip
  | .write bytes, chip => (.ok (), chip.absorb bytes)
  | .writeRead bytes length, chip =>
    let chip := chip.absorb bytes
    (.ok ⟨length, chip.answer bytes length⟩, chip)

/-- The registers after power-up: every terminal connected, the reserved STATUS bits set, the rest
zero. -/
def powerUp : Vector UInt16 16 :=
  ((Vector.replicate 16 0).set 4 0x1FF).set 10 0x1FF |>.set 5 0x1F0

end Chip

end WiperDriver
