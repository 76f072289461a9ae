import WiperDriver.Chip
import WiperDriver.Registers.Lemmas

/-!
# The chip's reading of the driver's bytes

The driver puts a command byte together by `Command.encode` and the chip takes it apart by
`Chip.decode`; neither knows of the other. This module says that they agree. `absorb_write` is the
write of a 9-bit value whose top bit travels in the command byte, `absorb_burst` the burst of
pulses, brought from one pulse after another to the closed form `Chip.burst`, and `word_answer` the
answer to a read.

A burst has a closed form only from its first pulse on: a pulse pulls a register that stands above
the limit down to the limit, and no pulse at all leaves it where it is.
-/

namespace WiperDriver

namespace Command

/-- An address that fits the command byte is encoded. -/
theorem encode_of_le {address : UInt8} (h : address ≤ maxAddress) (operation : Operation) :
    encode address operation = .ok ((address <<< 4) ||| operation.code) :=
  if_pos h

/-- An address that does not fit is refused. -/
theorem encode_of_not_le {address : UInt8} (h : ¬ address ≤ maxAddress) (operation : Operation) :
    encode address operation = .error (.invalidAddress address) :=
  if_neg h

end Command

namespace Chip

/-! ## Registers -/

/-- The register that an address names. An address that fits the command byte is its number. -/
def slot (address : UInt8) : Fin 16 :=
  ⟨address.toNat % 16, Nat.mod_lt _ (by decide)⟩

/-- The register with the lock and protection flags. -/
def statusSlot : Fin 16 :=
  slot statusAddress

/-- Addresses that fit the command byte are the numbers of the registers. -/
theorem eq_ofNat_slot {address : UInt8} (h : address ≤ Command.maxAddress) :
    address = UInt8.ofNat (slot address) := by
  have hle : address.toNat ≤ 15 := UInt8.le_iff_toNat_le.1 h
  apply UInt8.toNat_inj.1
  rw [UInt8.toNat_ofNat']
  show address.toNat = address.toNat % 16 % 2 ^ 8
  omega

@[simp] theorem register_setRegister (chip : Chip) (address other : Fin 16) (value : UInt16) :
    (chip.setRegister address value).register other =
      if address = other then value else chip.register other := by
  simp [register, setRegister, Vector.getElem_set, Fin.ext_iff]

theorem register_setRegister_self (chip : Chip) (address : Fin 16) (value : UInt16) :
    (chip.setRegister address value).register address = value := by
  rw [register_setRegister, if_pos rfl]

theorem register_setRegister_of_ne {address other : Fin 16} (h : address ≠ other) (chip : Chip)
    (value : UInt16) : (chip.setRegister address value).register other = chip.register other := by
  rw [register_setRegister, if_neg h]

@[simp] theorem limit_setRegister (chip : Chip) (address : Fin 16) (value : UInt16) :
    (chip.setRegister address value).limit = chip.limit :=
  rfl

/-- Of two values for one register the later stays. -/
@[simp] theorem setRegister_setRegister (chip : Chip) (address : Fin 16) (value later : UInt16) :
    (chip.setRegister address value).setRegister address later =
      chip.setRegister address later := by
  simp [setRegister]

/-- A register that is set to its own value stays as it is. -/
@[simp] theorem setRegister_register (chip : Chip) (address : Fin 16) :
    chip.setRegister address (chip.register address) = chip := by
  simp [setRegister, register]

/-! ## Bursts -/

/-- The position after some pulses in a direction, at least one. -/
def swept (limit value : UInt16) (count : Nat) : Direction → UInt16
  | .up => UInt16.ofNat (min (value.toNat + count) limit.toNat)
  | .down => UInt16.ofNat (value.toNat - count)

@[simp] theorem toNat_swept_up (limit value : UInt16) (count : Nat) :
    (swept limit value count .up).toNat = min (value.toNat + count) limit.toNat := by
  have := limit.toNat_lt
  rw [swept, UInt16.toNat_ofNat', Nat.mod_eq_of_lt (by omega)]

@[simp] theorem toNat_swept_down (limit value : UInt16) (count : Nat) :
    (swept limit value count .down).toNat = value.toNat - count := by
  have := value.toNat_lt
  rw [swept, UInt16.toNat_ofNat', Nat.mod_eq_of_lt (by omega)]

/-- Pulses add up. -/
theorem swept_swept (limit value : UInt16) (count more : Nat) (direction : Direction) :
    swept limit (swept limit value count direction) more direction =
      swept limit value (count + more) direction := by
  apply UInt16.toNat_inj.1
  cases direction with
  | up => simp only [toNat_swept_up]; omega
  | down => simp only [toNat_swept_down]; omega

/-- The chip after a burst of at least one pulse, all at once. However many pulses go to an address
that stands for a STATUS flag, they set or clear that flag. -/
def burst (chip : Chip) (address : Fin 16) (direction : Direction) (count : Nat) : Chip :=
  match flag? address with
  | some flag =>
    chip.setRegister statusSlot (assign (chip.register statusSlot) flag (direction = .up))
  | none => chip.setRegister address (swept chip.limit (chip.register address) count direction)

/-- A burst at an address without a flag moves the register there. -/
theorem burst_of_none {address : Fin 16} (h : flag? address = none) (chip : Chip)
    (direction : Direction) (count : Nat) :
    chip.burst address direction count =
      chip.setRegister address (swept chip.limit (chip.register address) count direction) := by
  rw [burst, h]

/-- A burst at an address with a flag sets or clears the flag. -/
theorem burst_of_some {address : Fin 16} {flag : UInt16} (h : flag? address = some flag)
    (chip : Chip) (direction : Direction) (count : Nat) :
    chip.burst address direction count =
      chip.setRegister 5 (assign (chip.register 5) flag (direction = .up)) := by
  rw [burst, h]
  rfl

/-- One pulse is a burst of one. -/
theorem pulse_eq_burst (chip : Chip) (address : Fin 16) (direction : Direction) :
    chip.pulse address direction = chip.burst address direction 1 := by
  unfold pulse burst
  cases h : flag? address with
  | some flag => cases direction <;> rfl
  | none => cases direction <;> rfl

/-- Setting or clearing a flag again changes nothing. -/
theorem assign_assign (word flag : UInt16) (on : Bool) :
    assign (assign word flag on) flag on = assign word flag on := by
  cases on with
  | true => simp [assign, UInt16.or_assoc]
  | false => simp [assign, UInt16.and_assoc]

/-- Two bursts in a row are one. -/
theorem burst_burst (chip : Chip) (address : Fin 16) (direction : Direction) (count more : Nat) :
    (chip.burst address direction count).burst address direction more =
      chip.burst address direction (count + more) := by
  cases h : flag? address with
  | some flag => simp [burst_of_some h, assign_assign]
  | none => simp [burst_of_none h, swept_swept]

/-! ## What the chip makes of a transaction -/

/-- The command of an operation as the chip decodes it, with the ninth bit clear. -/
def Instruction.of (address : Fin 16) : Command.Operation → Instruction
  | .write => .store address false
  | .increment => .pulse address .up
  | .decrement => .pulse address .down
  | .read => .read address

/-- The decoder reads back what the encoder wrote. -/
theorem decode_encode {address command : UInt8} {operation : Command.Operation}
    (h : Command.encode address operation = .ok command) :
    decode command = Instruction.of (slot address) operation := by
  have all : ∀ register : Fin 16, decode ((UInt8.ofNat register <<< 4) ||| operation.code) =
      Instruction.of register operation := by
    cases operation <;> decide
  by_cases hle : address ≤ Command.maxAddress
  · rw [Command.encode_of_le hle] at h
    injection h with h
    rw [← h, ← all (slot address), ← eq_ofNat_slot hle]
  · rw [Command.encode_of_not_le hle] at h
    cases h

/-- The decoder finds the ninth bit of a write in the command byte. -/
theorem decode_encode_write {address command : UInt8}
    (h : Command.encode address .write = .ok command) :
    decode (command ||| 1) = .store (slot address) true := by
  have all : ∀ register : Fin 16,
      decode (((UInt8.ofNat register <<< 4) ||| Command.Operation.write.code) ||| 1) =
        .store register true := by
    decide
  by_cases hle : address ≤ Command.maxAddress
  · rw [Command.encode_of_le hle] at h
    injection h with h
    rw [← h, ← all (slot address), ← eq_ofNat_slot hle]
  · rw [Command.encode_of_not_le hle] at h
    cases h

/-- The decoder finds the direction of a pulse. -/
theorem decode_pulse {address command : UInt8} {direction : Direction}
    (h : Command.encode address (.ofDirection direction) = .ok command) :
    decode command = .pulse (slot address) direction := by
  rw [decode_encode h]
  cases direction <;> rfl

/-- A store takes the next byte. -/
theorem absorb_store {command : UInt8} {address : Fin 16} {high : Bool}
    (h : decode command = .store address high) (chip : Chip) (data : UInt8) :
    chip.absorb [command, data] =
      chip.setRegister address ((if high then 0x100 else 0) ||| data.toUInt16) := by
  unfold absorb
  simp only [h]
  rfl

/-- A pulse takes no other byte. -/
theorem absorb_pulse {command : UInt8} {address : Fin 16} {direction : Direction}
    (h : decode command = .pulse address direction) (chip : Chip) (rest : List UInt8) :
    chip.absorb (command :: rest) = (chip.pulse address direction).absorb rest := by
  rw [absorb.eq_def]
  simp only [h]

/-- A word is its high byte above its low byte. -/
theorem high_or_low (word : UInt16) :
    ((word >>> 8).toUInt8.toUInt16 <<< 8) ||| word.toUInt8.toUInt16 = word := by
  have hlt := word.toNat_lt
  have hlow : word.toNat % 256 < 2 ^ 8 := Nat.mod_lt _ (by decide)
  apply UInt16.toNat_inj.1
  have hsum := Nat.two_pow_add_eq_or_of_lt hlow (word.toNat / 256)
  simp only [UInt16.toNat_or, UInt16.toNat_shiftLeft, UInt8.toNat_toUInt16, UInt16.toNat_toUInt8,
    UInt16.toNat_shiftRight, UInt16.reduceToNat, Nat.shiftRight_eq_div_pow, Nat.shiftLeft_eq,
    Nat.reduceMod, Nat.reducePow] at hsum ⊢
  rw [show word.toNat / 256 % 256 * 256 % 65536 = 256 * (word.toNat / 256) by omega, ← hsum]
  omega

/-- Above the low byte of a value that fits a register there is its ninth bit and nothing else. -/
theorem high_eq {value : UInt16} (hv : value ≤ Registers.maxWord) :
    (value >>> 8).toUInt8 = if 0xFF < value then 1 else 0 := by
  have hle : value.toNat ≤ 511 := UInt16.le_iff_toNat_le.1 hv
  have hbyte : ((value >>> 8).toUInt8).toNat = value.toNat / 256 % 256 := by
    simp [Nat.shiftRight_eq_div_pow]
  apply UInt8.toNat_inj.1
  rw [hbyte]
  split <;> rename_i hbit <;> rw [UInt16.lt_iff_toNat_lt] at hbit
  · have hlarge : 255 < value.toNat := hbit
    show value.toNat / 256 % 256 = 1
    omega
  · have hsmall : ¬ 255 < value.toNat := hbit
    show value.toNat / 256 % 256 = 0
    omega

/-- The decoder finds the ninth bit of the value in the command byte of a write. -/
theorem decode_write {address command : UInt8} {value : UInt16}
    (h : Command.encode address .write = .ok command) (hv : value ≤ Registers.maxWord) :
    decode (command ||| (value >>> 8).toUInt8) = .store (slot address) (0xFF < value) := by
  rw [high_eq hv]
  by_cases hbit : 0xFF < value
  · rw [if_pos hbit, decode_encode_write h, decide_eq_true hbit]
  · rw [if_neg hbit, UInt8.or_zero, decode_encode h, decide_eq_false hbit]
    rfl

/-- **A write of two bytes sets the register.** The value's ninth bit, which travels in the command
byte, and the data byte make up the value again. -/
theorem absorb_write {address command : UInt8} {value : UInt16}
    (h : Command.encode address .write = .ok command) (hv : value ≤ Registers.maxWord)
    (chip : Chip) :
    chip.absorb [command ||| (value >>> 8).toUInt8, value.toUInt8] =
      chip.setRegister (slot address) value := by
  have hbytes := high_or_low value
  rw [high_eq hv] at hbytes
  rw [absorb_store (decode_write h hv)]
  refine congrArg (chip.setRegister (slot address)) (Eq.trans ?_ hbytes)
  by_cases hbit : 0xFF < value
  · rw [if_pos hbit, if_pos (decide_eq_true hbit)]
    rfl
  · rw [if_neg hbit, if_neg (by rw [decide_eq_false hbit]; decide)]
    rfl

/-- **A burst of equal pulses in closed form.** -/
theorem absorb_burst {command : UInt8} {address : Fin 16} {direction : Direction}
    (h : decode command = .pulse address direction) {count : Nat} (hc : 0 < count) (chip : Chip) :
    chip.absorb (List.replicate count command) = chip.burst address direction count := by
  induction count generalizing chip with
  | zero => cases hc
  | succ count ih =>
    rw [List.replicate_succ, absorb_pulse h, pulse_eq_burst]
    cases count with
    | zero => rfl
    | succ count => rw [ih (Nat.succ_pos _), burst_burst, Nat.add_comm]

/-- A read command leaves the chip as it is. -/
theorem absorb_read {address command : UInt8} (h : Command.encode address .read = .ok command)
    (chip : Chip) : chip.absorb [command] = chip := by
  have hread : decode command = .read (slot address) := decode_encode h
  rw [absorb.eq_def]
  simp only [hread]

/-- **The answer to a read is the register**, all sixteen bits of it. -/
theorem word_answer {address command : UInt8} (h : Command.encode address .read = .ok command)
    (chip : Chip) :
    Registers.word ⟨2, chip.answer [command] 2⟩ = chip.register (slot address) := by
  simp only [Registers.word, Bus.Reading.byte, answer, List.headD_cons, decode_encode h]
  exact high_or_low (chip.register (slot address))

end Chip

end WiperDriver
