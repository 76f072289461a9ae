import WiperDriver.Linux.Errno

/-!
# Errors of a Linux I2C device

Beside failing system calls there are two refusals that the device handle decides by itself: a slave
address outside the assignable range and a bus driver without combined transfers. To the driver
above, which knows bus failures only, each of them is a failure of a fitting kind
(`Error.failure`).
-/

namespace WiperDriver.Linux

/-- Why an operation on a device handle did not succeed. -/
inductive Error where
  /-- A system call failed, or a buffer is too long for one. -/
  | io (failure : Failure)
  /-- The slave address is reserved or longer than seven bits. -/
  | invalidSlaveAddress (address : UInt16)
  /-- The bus driver has no combined transfers. -/
  | featureNotSupported
  deriving DecidableEq, Repr

namespace Error

/-- The identifier of a cause. -/
def name : Error → String
  | .io _ => "Io"
  | .invalidSlaveAddress _ => "InvalidSlaveAddress"
  | .featureNotSupported => "FeatureNotSupported"

/-- The bus failure behind an error, if there is one. -/
def failure? : Error → Option Failure
  | .io failure => some failure
  | _ => none

/-- The wording of an error. -/
def message : Error → String
  | .io failure => "I/O error: " ++ failure.text
  | .invalidSlaveAddress address => "Invalid slave address: " ++ toString address.toNat
  | .featureNotSupported => "I2C feature not supported"

/-- The error as a bus failure. -/
def failure : Error → Failure
  | .io failure => failure
  | .invalidSlaveAddress address => ⟨.invalidInput, message (.invalidSlaveAddress address)⟩
  | .featureNotSupported => ⟨.unsupported, message .featureNotSupported⟩

end Error

end WiperDriver.Linux
