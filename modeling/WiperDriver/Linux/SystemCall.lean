import WiperDriver.Linux.Errno

/-!
# System calls of an I2C device file

The few calls by which a process drives a bus through `/dev/i2c-N`: opening the file, writing to it,
and the control requests. A combined transfer is a list of messages that the kernel sends with a
single stop at the end.
-/

namespace WiperDriver.Linux

/-- An open file, as the process knows it. -/
structure Descriptor where
  number : Nat
  deriving DecidableEq, Repr, Inhabited

/-- A message of a combined transfer. The length is the 16-bit field of the kernel's message record,
the bytes are what the record points to. -/
inductive Message where
  | outgoing (address length : UInt16) (bytes : List UInt8)
  | incoming (address length : UInt16)
  deriving DecidableEq, Repr

namespace Message

/-- The slave that a message goes to. -/
def address : Message → UInt16
  | .outgoing address _ _ => address
  | .incoming address _ => address

/-- The flag word of a message: its lowest bit is set if the slave is to send. -/
def flags : Message → UInt16
  | .outgoing _ _ _ => 0
  | .incoming _ _ => 1

end Message

/-- A control request for a device file. -/
inductive Request where
  /-- Asks what the bus driver can do. -/
  | functions
  /-- Chooses between 7-bit and 10-bit slave addresses. -/
  | tenBit (argument : UInt64)
  /-- Sets the timeout, in hundredths of a second. -/
  | timeout (argument : UInt64)
  /-- Chooses the slave that plain writes go to. -/
  | slave (argument : UInt64)
  /-- Carries out a combined transfer. -/
  | transfer (messages : List Message)
  deriving DecidableEq, Repr

/-- A system call. -/
inductive SystemCall where
  /-- Opens a file for reading and writing. -/
  | openFile (path : String)
  /-- Sends a control request. -/
  | control (file : Descriptor) (request : Request)
  /-- Writes bytes. -/
  | write (file : Descriptor) (bytes : List UInt8)
  deriving DecidableEq, Repr

/-- What a request is answered with: the function mask, the bytes of the incoming messages in order,
or nothing. -/
abbrev Request.Answer : Request → Type
  | .functions => UInt64
  | .transfer _ => List UInt8
  | .tenBit _ | .timeout _ | .slave _ => Unit

/-- What a system call is answered with. A write says how many bytes were taken. -/
abbrev SystemCall.Answer : SystemCall → Type
  | .openFile _ => Except Errno Descriptor
  | .control _ request => Except Errno request.Answer
  | .write _ _ => Except Errno Nat

end WiperDriver.Linux
