import WiperDriver.Linux.Device

/-!
# Device operations as data

`Device.Operation` names every operation on an open handle together with its arguments, and
`Operation.perform` is what it does. A sequence of operations is a list of them.
-/

namespace WiperDriver.Linux.Device

/-- An operation on a handle with its arguments. -/
inductive Operation where
  | selectSlave (address : UInt16)
  | setTimeout (milliseconds : UInt32)
  | write (bytes : List UInt8)
  | writeRead (bytes : List UInt8) (length : Nat)
  deriving DecidableEq, Repr

/-- What an operation gives back. -/
inductive Result where
  | done
  | taken (count : Nat)
  | reading (reading : Bus.Reading)
  deriving DecidableEq, Repr

/-- What an operation does. -/
def Operation.perform : Operation → Program Result
  | .selectSlave address => (fun _ => .done) <$> Device.selectSlave address
  | .setTimeout milliseconds => (fun _ => .done) <$> Device.setTimeout milliseconds
  | .write bytes => .taken <$> Device.write bytes
  | .writeRead bytes length => .reading <$> Device.writeRead bytes length

end WiperDriver.Linux.Device
