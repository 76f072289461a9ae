import WiperDriver.Direction
import WiperDriver.Mode
import WiperDriver.Model
import WiperDriver.Text.Radix

/-!
# Log lines

What the driver says while it works. A line is kept as the event it reports; its level and its
wording follow from that.
-/

namespace WiperDriver.Log

/-- How much a line matters. -/
inductive Level where
  | trace
  | debug
  | warn
  deriving DecidableEq, Repr, Inhabited

/-- The mark of a level. -/
def Level.name : Level → String
  | .trace => "TRACE"
  | .debug => "DEBUG"
  | .warn => "WARN"

/-- Something the driver reports. -/
inductive Line where
  /-- A register was read. -/
  | read (address : UInt8) (value : UInt16)
  /-- A register is about to be written. -/
  | write (address : UInt8) (value : UInt16)
  /-- A burst of pulses is about to be sent. -/
  | pulse (direction : Direction) (address : UInt8) (count : Nat)
  /-- A STATUS word was refused. -/
  | unexpectedStatus (value : UInt16)
  /-- A wiper is under control and at a known position. -/
  | initialized (model : Model) (channel : Channel) (value : UInt16) (mode : Mode)
  /-- A step is carried out by writing the new position. -/
  | writingStep (channel : Channel) (value : UInt16) (steps : UInt32)
  /-- A step is carried out by a burst. -/
  | stepping (channel : Channel) (steps : UInt16) (value : UInt16)
  deriving DecidableEq, Repr

namespace Line

/-- How much a line matters: register traffic is fine detail, a refused word is a warning. -/
def level : Line → Level
  | .read .. | .write .. | .pulse .. => .trace
  | .unexpectedStatus .. => .warn
  | .initialized .. | .writingStep .. | .stepping .. => .debug

/-- The wording of a line. -/
def text : Line → String
  | .read address value => "read " ++ Text.hex 2 address.toNat ++ " -> " ++ Text.hex 3 value.toNat
  | .write address value => "write " ++ Text.hex 2 address.toNat ++ " <- " ++ Text.hex 3 value.toNat
  | .pulse direction address count =>
    direction.verb ++ " " ++ Text.hex 2 address.toNat ++ " by " ++ toString count
  | .unexpectedStatus value =>
    "Unexpected STATUS register contents: " ++ Text.binary 9 value.toNat
  | .initialized model channel value mode =>
    model.name ++ " channel " ++ channel.name ++ " initialized at " ++ toString value.toNat
      ++ " (" ++ mode.text ++ ")"
  | .writingStep channel value steps =>
    "Channel " ++ channel.name ++ ": writing " ++ toString value.toNat
      ++ " instead of stepping " ++ toString steps.toNat ++ " times"
  | .stepping channel steps value =>
    "Channel " ++ channel.name ++ ": stepping " ++ toString steps.toNat
      ++ " times to " ++ toString value.toNat

/-- A line with its level in front. -/
def render (line : Line) : String :=
  line.level.name ++ " " ++ line.text

end Line

end WiperDriver.Log
