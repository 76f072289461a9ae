import WiperDriver.Registers

/-!
# Register operations as data

`Registers.Operation` names every operation on the registers together with its arguments, and
`Operation.perform` is what it does. A sequence of operations is a list of them.
-/

namespace WiperDriver.Registers

/-- An operation on the registers with its arguments. -/
inductive Operation where
  | read (address : UInt8)
  | write (address : UInt8) (word : UInt16)
  | pulse (address : UInt8) (direction : Direction) (steps : Int32)
  | status
  | increase (channel : Channel) (steps : Int32)
  | decrease (channel : Channel) (steps : Int32)
  | value (channel : Channel) (nonVolatile : Bool)
  | setValue (channel : Channel) (word : UInt16) (nonVolatile : Bool)
  | terminals (channel : Channel)
  | setTerminals (setting : Terminals)
  | setLock (channel : Channel) (locked : Bool)
  | setProtection (enabled : Bool)
  deriving DecidableEq, Repr

/-- What an operation gives back. -/
inductive Result where
  | done
  | word (value : UInt16)
  | status (status : Status)
  | terminals (terminals : Terminals)
  deriving DecidableEq, Repr

/-- What an operation does. -/
def Operation.perform : Operation → Program Result
  | .read address => .word <$> Registers.read address
  | .write address word => (fun _ => .done) <$> Registers.write address word
  | .pulse address direction steps => (fun _ => .done) <$> Registers.pulse address direction steps
  | .status => .status <$> Registers.status
  | .increase channel steps => (fun _ => .done) <$> Registers.increase channel steps
  | .decrease channel steps => (fun _ => .done) <$> Registers.decrease channel steps
  | .value channel nonVolatile => .word <$> Registers.value channel nonVolatile
  | .setValue channel word nonVolatile =>
    (fun _ => .done) <$> Registers.setValue channel word nonVolatile
  | .terminals channel => .terminals <$> Registers.terminals channel
  | .setTerminals setting => (fun _ => .done) <$> Registers.setTerminals setting
  | .setLock channel locked => (fun _ => .done) <$> Registers.setLock channel locked
  | .setProtection enabled => (fun _ => .done) <$> Registers.setProtection enabled

end WiperDriver.Registers
