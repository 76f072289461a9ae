import WiperDriver.Bus
import WiperDriver.SlaveAddress

/-!
# Buses with two blocking calls

A bus of this kind has one call for sending and one for sending and then receiving, each with the
slave address. It fills the buffer or fails, and an error of it is known by nothing but its own
description, so every one is a failure of no particular kind.
-/

namespace WiperDriver.Bus.Blocking

/-- A transaction with one slave. -/
inductive Call where
  | write (address : UInt8) (bytes : List UInt8)
  | writeRead (address : UInt8) (bytes : List UInt8) (length : Nat)
  deriving DecidableEq, Repr

/-- Nothing or the bytes received, or the description of an error. -/
abbrev Answer : Call → Type
  | .write _ _ => Except String Unit
  | .writeRead _ _ _ => Except String (List UInt8)

/-- The failure that the driver sees. -/
def failure (description : String) : Failure where
  kind := .other
  text := "I2C error: " ++ description

/-- Carries out what the driver asks as one call for the slave whose address pins are given. -/
def adapter (pins : Pins) : Adapter Bus.Call Bus.Answer Call Answer
  | .write bytes =>
    Except.mapError failure <$> Dialogue.request (Call.write pins.slaveAddress.toUInt8 bytes)
  | .writeRead bytes length =>
    (fun answer => (Except.mapError failure answer).map fun data => ⟨length, data⟩) <$>
      Dialogue.request (Call.writeRead pins.slaveAddress.toUInt8 bytes length)

end WiperDriver.Bus.Blocking
