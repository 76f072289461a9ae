import WiperDriver.Direction
import WiperDriver.Error

/-!
# Command bytes

The chip is addressed and commanded by one byte: the register address in the high nibble, two bits
of operation code, and below them the ninth bit of a value to be written. An address that needs more
than a nibble is refused rather than cut.
-/

namespace WiperDriver.Command

/-- What a command byte asks for. -/
inductive Operation where
  | write
  | increment
  | decrement
  | read
  deriving DecidableEq, Repr, Inhabited

/-- The operation code in its place in the command byte. -/
def Operation.code : Operation → UInt8
  | .write => 0x0
  | .increment => 0x4
  | .decrement => 0x8
  | .read => 0xC

/-- The pulse that moves a wiper in a direction. -/
def Operation.ofDirection : Direction → Operation
  | .up => .increment
  | .down => .decrement

/-- The highest register address. -/
def maxAddress : UInt8 :=
  0x0F

/-- The command byte for an operation on a register. -/
def encode (address : UInt8) (operation : Operation) : Except Error UInt8 :=
  if address ≤ maxAddress then .ok ((address <<< 4) ||| operation.code)
  else .error (.invalidAddress address)

/-- An address is refused exactly if it needs more than four bits. -/
theorem encode_eq_error_iff {address : UInt8} {operation : Operation} {error : Error} :
    encode address operation = .error error ↔
      maxAddress < address ∧ error = .invalidAddress address := by
  unfold encode
  split
  · next h => simp [UInt8.not_lt.2 h]
  · next h => simp [UInt8.not_le.1 h, eq_comm]

end WiperDriver.Command
