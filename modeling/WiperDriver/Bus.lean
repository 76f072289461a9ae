import WiperDriver.Dialogue.Adapt
import WiperDriver.Failure

/-!
# The bus

All that the driver asks of a bus: to send bytes to the chip, or to send bytes and then receive
some. Each is one transaction with one slave, which the bus itself addresses, and neither is ever
tried a second time.
-/

namespace WiperDriver.Bus

/-- What a receiving transaction left behind. -/
structure Reading where
  /-- How many bytes the bus says it received. -/
  count : Nat
  /-- The receive buffer. -/
  data : List UInt8
  deriving DecidableEq, Repr

/-- A byte of the receive buffer, which is cleared before it is filled. -/
def Reading.byte (reading : Reading) (index : Nat) : UInt8 :=
  reading.data.getD index 0

/-- A transaction. -/
inductive Call where
  /-- Sends bytes. -/
  | write (bytes : List UInt8)
  /-- Sends bytes and then receives into a buffer of the given length. -/
  | writeRead (bytes : List UInt8) (length : Nat)
  deriving DecidableEq, Repr

/-- What a transaction is answered with. -/
abbrev Answer : Call → Type
  | .write _ => Except Failure Unit
  | .writeRead _ _ => Except Failure Reading

/-- A bus that keeps a state of type `σ`. -/
abbrev Responder (σ : Type) : Type :=
  WiperDriver.Responder Call Answer σ

end WiperDriver.Bus
