import WiperDriver.Bench.Connection
import WiperDriver.Registers.Operation
import WiperDriver.Wiper.Operation

/-!
# Steps of a session

What can be done on the bench, one step at a time, and what a step is answered with. A step on a
handle is worded the same for every type of handle and means something else for each, so it carries
a reading for each type; a reading is missing where the type has no such step, or where the step
lacks an argument that the type needs.
-/

namespace WiperDriver.Bench

/-- Where a new handle gets its connection from. -/
inductive Source where
  /-- From an older handle, which is closed by that. -/
  | handle (number : Nat)
  | direct
  | exclusive
  | shared
  | transactional (pins : Pins)
  | blocking (pins : Pins)
  /-- A device file with no slave chosen. -/
  | bus (bus : UInt8)
  /-- A device file with a slave chosen. -/
  | slave (bus : UInt8) (pins : Pins)
  deriving DecidableEq, Repr

/-- What a new handle is to be. -/
inductive Fitting where
  /-- A bare connection. -/
  | bare
  /-- Access to the registers. -/
  | registers
  /-- A wiper under control. -/
  | wiper (model : Model) (channel : Channel) (mode : Mode) (initial : Int32)
  deriving DecidableEq, Repr

/-- What can be done with the connection of any handle. -/
inductive LinkAction where
  /-- Asks for the connection. -/
  | connection
  | write (bytes : List UInt8)
  | writeRead (bytes : List UInt8) (length : Nat)
  /-- Leaves nothing but the connection. -/
  | unwrap
  | close
  /-- Gives the connection up and counts the transactions that its bus was given. -/
  | countCalls
  /-- Asks for the state of a device. -/
  | describeDevice
  /-- Performs an operation of a device. -/
  | device (operation : Linux.Device.Operation)
  deriving DecidableEq, Repr

/-- What can be done with a wiper. -/
inductive WiperAction where
  /-- Asks for the known position. -/
  | position
  /-- Asks for the constant properties. -/
  | describe
  /-- Performs an operation of a wiper. -/
  | perform (operation : Wiper.Operation)
  deriving DecidableEq, Repr

/-- A step on a handle with its reading for each type of handle. -/
structure Request where
  /-- The reading that suits every type. -/
  link : Option LinkAction
  registers : Option Registers.Operation
  wiper : Option WiperAction
  /-- Whether a closed handle is noticed only after the arguments. -/
  argumentsFirst : Bool
  deriving DecidableEq, Repr

/-- What a step does. -/
inductive Action where
  /-- Nothing: the step cannot be read. -/
  | malformed
  | connect (source : Source) (fitting : Fitting)
  | setRegister (address : Fin 16) (value : UInt16)
  | registers
  /-- Adds a fault whose window is counted from here. -/
  | addFault (fault : Fault)
  | clearFaults
  /-- Takes hold of the shared bus. -/
  | hold
  | release
  | onHandle (handle : Nat) (request : Request)
  deriving DecidableEq, Repr

/-- A step and the handle it is about, which is shown with the answer. -/
structure Step where
  focus : Nat
  action : Action
  deriving DecidableEq, Repr

/-- What a step is answered with. -/
inductive Answer where
  | done
  | opened (handle : Nat)
  | number (value : Nat)
  | connection (connection : Connection)
  | registers (values : Vector UInt16 16)
  | reading (reading : Bus.Reading)
  | calls (count : Nat)
  | device (device : Linux.Device)
  | wiper (wiper : Wiper)
  | status (status : Status)
  | channelStatus (status : ChannelStatus)
  | terminals (terminals : Terminals)
  /-- The driver refused or failed. -/
  | refused (error : Error)
  /-- The bus failed. -/
  | failed (failure : Failure)
  /-- The device refused or failed. -/
  | deviceRefused (error : Linux.Error)
  /-- The step cannot be read. -/
  | badInput
  /-- There is no such handle. -/
  | badHandle
  deriving DecidableEq, Repr

namespace Answer

/-- What a register operation gave back, as an answer. -/
def ofRegisters : Except Error Registers.Result → Answer
  | .ok .done => .done
  | .ok (.word value) => .number value.toNat
  | .ok (.status found) => .status found
  | .ok (.terminals found) => .terminals found
  | .error error => .refused error

/-- What a wiper operation gave back, as an answer. -/
def ofWiper : Except Error Wiper.Result → Answer
  | .ok .done => .done
  | .ok (.position value) => .number value.toNat
  | .ok (.status found) => .channelStatus found
  | .ok (.terminals found) => .terminals found
  | .error error => .refused error

/-- What a device operation gave back, as an answer. -/
def ofDevice : Except Linux.Error Linux.Device.Result → Answer
  | .ok .done => .done
  | .ok (.taken count) => .number count
  | .ok (.reading found) => .reading found
  | .error error => .deviceRefused error

end Answer

end WiperDriver.Bench
