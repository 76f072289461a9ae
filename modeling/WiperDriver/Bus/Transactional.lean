import WiperDriver.Bus
import WiperDriver.SlaveAddress

/-!
# Buses that take whole transactions

A bus of this kind is given a slave address and a list of segments, which it carries out as one
transaction: every receiving segment is filled, or the transaction fails. Sending is a transaction
of one segment and receiving one of two. Its failures are sorted by what went wrong on the wires;
`ErrorKind.failureKind` says what each sort means to the driver.
-/

namespace WiperDriver.Bus.Transactional

/-- What was not acknowledged. -/
inductive Source where
  | address
  | data
  | unknown
  deriving DecidableEq, Repr, Inhabited

/-- What went wrong on the wires. -/
inductive ErrorKind where
  | bus
  | arbitrationLoss
  | noAcknowledge (source : Source)
  | overrun
  | other
  deriving DecidableEq, Repr, Inhabited

namespace ErrorKind

/-- Every sort of error. -/
def all : List ErrorKind :=
  [.bus, .arbitrationLoss, .noAcknowledge .address, .noAcknowledge .data, .noAcknowledge .unknown,
    .overrun, .other]

/-- The identifier of a sort of error. -/
def name : ErrorKind → String
  | .bus => "Bus"
  | .arbitrationLoss => "ArbitrationLoss"
  | .noAcknowledge .address => "NoAcknowledge(Address)"
  | .noAcknowledge .data => "NoAcknowledge(Data)"
  | .noAcknowledge .unknown => "NoAcknowledge(Unknown)"
  | .overrun => "Overrun"
  | .other => "Other"

/-- The sort of error of an identifier; an unknown identifier is an error of no particular sort. -/
def ofName (text : String) : ErrorKind :=
  (all.find? (·.name = text)).getD .other

/-- The kind of failure that the driver sees. -/
def failureKind : ErrorKind → Failure.Kind
  | .bus | .overrun => .invalidData
  | .arbitrationLoss => .wouldBlock
  | .noAcknowledge _ => .notConnected
  | .other => .other

end ErrorKind

/-- An error of the bus: its sort and its own description. -/
structure BusError where
  kind : ErrorKind
  description : String
  deriving DecidableEq, Repr

/-- The failure that the driver sees. -/
def BusError.failure (error : BusError) : Failure where
  kind := error.kind.failureKind
  text := "I2C error: " ++ error.description

/-- A part of a transaction. -/
inductive Segment where
  | write (bytes : List UInt8)
  | read (length : Nat)
  deriving DecidableEq, Repr

/-- A transaction with one slave. -/
structure Call where
  address : UInt8
  segments : List Segment
  deriving DecidableEq, Repr

/-- The bytes of the receiving segments, in order. -/
abbrev Answer (_ : Call) : Type :=
  Except BusError (List UInt8)

/-- Carries out what the driver asks as one transaction with the slave whose address pins are given.
Such a bus fills a buffer or fails, so a reading always has the length that was asked for. -/
def adapter (pins : Pins) : Adapter Bus.Call Bus.Answer Call Answer
  | .write bytes => do
    let answer ← Dialogue.request ⟨pins.slaveAddress.toUInt8, [.write bytes]⟩
    return (Except.mapError BusError.failure answer).map fun _ => ()
  | .writeRead bytes length => do
    let answer ← Dialogue.request ⟨pins.slaveAddress.toUInt8, [.write bytes, .read length]⟩
    return (Except.mapError BusError.failure answer).map fun data => ⟨length, data⟩

end WiperDriver.Bus.Transactional
