import WiperDriver.Wiper

/-!
# Wiper operations as data

`Wiper.Operation` names every operation on a wiper together with its arguments, and
`Operation.perform` is what it does. A sequence of operations is a list of them.
-/

namespace WiperDriver.Wiper

/-- An operation on a wiper with its arguments. -/
inductive Operation where
  | update
  | moveTo (target : Int32)
  | increase
  | decrease
  | increaseBy (steps : UInt32)
  | decreaseBy (steps : UInt32)
  | setMode (mode : Mode)
  | nonVolatileValue
  | status
  | terminals
  | setTerminals (setting : Terminals)
  | setLock (locked : Bool)
  | setProtection (enabled : Bool)
  deriving DecidableEq, Repr

/-- What an operation gives back. -/
inductive Result where
  | done
  | position (value : UInt16)
  | status (status : ChannelStatus)
  | terminals (terminals : Terminals)
  deriving DecidableEq, Repr

/-- What an operation does. A single step is a step by one. -/
def Operation.perform : Operation → Program Result
  | .update => .position <$> Wiper.update
  | .moveTo target => (fun _ => .done) <$> Wiper.moveTo target
  | .increase => (fun _ => .done) <$> Wiper.increaseBy 1
  | .decrease => (fun _ => .done) <$> Wiper.decreaseBy 1
  | .increaseBy steps => (fun _ => .done) <$> Wiper.increaseBy steps
  | .decreaseBy steps => (fun _ => .done) <$> Wiper.decreaseBy steps
  | .setMode mode => (fun _ => .done) <$> Wiper.setMode mode
  | .nonVolatileValue => .position <$> Wiper.nonVolatileValue
  | .status => .status <$> Wiper.status
  | .terminals => .terminals <$> Wiper.terminals
  | .setTerminals setting => (fun _ => .done) <$> Wiper.setTerminals setting
  | .setLock locked => (fun _ => .done) <$> Wiper.setLock locked
  | .setProtection enabled => (fun _ => .done) <$> Wiper.setProtection enabled

end WiperDriver.Wiper
