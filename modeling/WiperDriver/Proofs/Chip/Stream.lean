import WiperDriver.Proofs.Chip.Commands

/-!
# The commands in a transaction

`Chip.commands` lists the commands that the chip finds in the bytes it is sent. Nothing but these
can change it: a register that none of them is aimed at stays as it is (`register_absorb`). The
bytes that the driver puts together hold one command, or a burst of the same command
(`commands_read`, `commands_write`, `commands_burst`).
-/

namespace WiperDriver

/-- The bytes that a transaction sends. -/
def Bus.Call.bytes : Bus.Call → List UInt8
  | .write bytes | .writeRead bytes _ => bytes

namespace Chip

/-- The commands that the chip finds in the bytes of a transaction, in order. A store counts even if
its data byte is missing; what follows a read is not looked at. -/
def commands : List UInt8 → List Instruction
  | [] => []
  | command :: rest =>
    match decode command, rest with
    | .store address high, [] => [.store address high]
    | .store address high, _ :: rest => .store address high :: commands rest
    | .pulse address direction, rest => .pulse address direction :: commands rest
    | .read address, _ => [.read address]

/-- A command that changes a register. -/
def Instruction.Writes : Instruction → Prop
  | .store _ _ | .pulse _ _ => True
  | .read _ => False

/-- The register that a command changes: its own, or STATUS for a pulse that stands for a flag. -/
def Instruction.changed? : Instruction → Option (Fin 16)
  | .store address _ => some address
  | .pulse address _ => some (if (flag? address).isSome then statusSlot else address)
  | .read _ => none

/-! ## The commands are all that counts -/

theorem commands_cons_pulse {command : UInt8} {address : Fin 16} {direction : Direction}
    (h : decode command = .pulse address direction) (rest : List UInt8) :
    commands (command :: rest) = .pulse address direction :: commands rest := by
  rw [commands.eq_def]
  simp only [h]

/-- A pulse changes one register. -/
theorem register_pulse (chip : Chip) {address slot : Fin 16} {direction : Direction}
    (h : (Instruction.pulse address direction).changed? ≠ some slot) :
    (chip.pulse address direction).register slot = chip.register slot := by
  have hne : (if (flag? address).isSome then statusSlot else address) ≠ slot :=
    fun hsame => h (congrArg some hsame)
  rw [pulse_eq_burst]
  cases hflag : flag? address with
  | some flag =>
    rw [hflag] at hne
    rw [burst_of_some hflag]
    exact register_setRegister_of_ne hne chip _
  | none =>
    rw [hflag] at hne
    rw [burst_of_none hflag]
    exact register_setRegister_of_ne hne chip _

/-- **A transaction changes no register but those that its commands change.** -/
theorem register_absorb {bytes : List UInt8} {slot : Fin 16}
    (h : ∀ command ∈ commands bytes, command.changed? ≠ some slot) (chip : Chip) :
    (chip.absorb bytes).register slot = chip.register slot := by
  fun_induction chip.absorb bytes with
  | case1 => rfl
  | case2 => rfl
  | case3 chip command address high data rest hdecode ih =>
    rw [commands.eq_def] at h
    simp only [hdecode, List.forall_mem_cons] at h
    have hne : address ≠ slot := fun hsame => h.1 (congrArg some hsame)
    rw [ih h.2, register_setRegister_of_ne hne]
  | case4 chip command rest address direction hdecode ih =>
    rw [commands_cons_pulse hdecode, List.forall_mem_cons] at h
    rw [ih h.2, register_pulse chip h.1]
  | case5 => rfl

/-! ## The driver's transactions -/

theorem commands_read {address command : UInt8} (h : Command.encode address .read = .ok command) :
    commands [command] = [.read (slot address)] := by
  have hread : decode command = .read (slot address) := decode_encode h
  rw [commands.eq_def]
  simp only [hread]

theorem commands_write {address command : UInt8} {value : UInt16}
    (h : Command.encode address .write = .ok command) (hv : value ≤ Registers.maxWord) :
    commands [command ||| (value >>> 8).toUInt8, value.toUInt8] =
      [.store (slot address) (0xFF < value)] := by
  rw [commands.eq_def]
  simp only [decode_write h hv]
  rfl

theorem commands_burst {address command : UInt8} {direction : Direction}
    (h : Command.encode address (.ofDirection direction) = .ok command) (count : Nat) :
    commands (List.replicate count command) =
      List.replicate count (.pulse (slot address) direction) := by
  induction count with
  | zero => rfl
  | succ count ih => rw [List.replicate_succ, commands_cons_pulse (decode_pulse h), ih]; rfl

end Chip

end WiperDriver
