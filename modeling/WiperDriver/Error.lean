import WiperDriver.Channel
import WiperDriver.Failure
import WiperDriver.Text.Radix

/-!
# Errors of the driver

The causes for which an operation on a chip is refused or fails. The first is a bus failure, handed
up as the bus reported it; the others are found by the driver itself, most of them before anything
is sent. `Error.message` words each of them.
-/

namespace WiperDriver

/-- Why an operation did not succeed. -/
inductive Error where
  /-- The bus failed. -/
  | io (failure : Failure)
  /-- The chip does not carry the channel. -/
  | unsupportedChannel (channel : Channel)
  /-- A terminal setting names another channel than the one it was given to. -/
  | channelMismatch (expected actual : Channel)
  /-- The register address does not fit the command byte. -/
  | invalidAddress (address : UInt8)
  /-- The value does not fit a 9-bit register. -/
  | valueOutOfRange (value : UInt16)
  /-- The burst is longer than a full sweep of the wiper. -/
  | stepsOutOfRange (steps : Int32)
  /-- A read delivered another number of bytes than a register has. -/
  | unexpectedByteCount (expected actual : Nat)
  /-- The reserved bits of the STATUS word are not what the chip family shows. -/
  | invalidStatus (value : UInt16)
  /-- The wiper can only be stepped while its volatile register alone is the target. -/
  | volatileOnly
  /-- The chip has no EEPROM. -/
  | nonVolatileNotSupported
  deriving DecidableEq, Repr

namespace Error

/-- The identifier of a cause. -/
def name : Error → String
  | .io _ => "Io"
  | .unsupportedChannel _ => "UnsupportedChannel"
  | .channelMismatch _ _ => "ChannelMismatch"
  | .invalidAddress _ => "InvalidAddress"
  | .valueOutOfRange _ => "ValueOutOfRange"
  | .stepsOutOfRange _ => "StepsOutOfRange"
  | .unexpectedByteCount _ _ => "UnexpectedByteCount"
  | .invalidStatus _ => "InvalidStatus"
  | .volatileOnly => "VolatileOnly"
  | .nonVolatileNotSupported => "NonVolatileNotSupported"

/-- The bus failure behind an error, if there is one. -/
def failure? : Error → Option Failure
  | .io failure => some failure
  | _ => none

/-- The wording of an error. -/
def message : Error → String
  | .io failure => "I/O error: " ++ failure.text
  | .unsupportedChannel channel => "Channel " ++ channel.name ++ " not supported by device"
  | .channelMismatch expected actual =>
    "Terminal configuration for channel " ++ actual.name ++ " applied to channel " ++ expected.name
  | .invalidAddress address => "Invalid register address: " ++ Text.hex 2 address.toNat
  | .valueOutOfRange value => "Value out of range: " ++ toString value.toNat
  | .stepsOutOfRange steps => "Step count out of range: " ++ toString steps.toInt
  | .unexpectedByteCount expected actual =>
    "Unexpected byte count: expected " ++ toString expected ++ ", received " ++ toString actual
  | .invalidStatus value => "Invalid STATUS register: " ++ Text.binary 9 value.toNat
  | .volatileOnly => "Operation only supported for volatile wipers"
  | .nonVolatileNotSupported => "Non-volatile wiper not supported"

end Error

end WiperDriver
