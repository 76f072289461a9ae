import WiperDriver.Bus.Blocking
import WiperDriver.Bus.Transactional
import WiperDriver.Linux.SystemCall
import WiperDriver.Text.Radix

/-!
# Transcripts

How the bench writes down a transaction, one line each. Bytes are pairs of hexadecimal digits and
slave addresses stand behind an `@`; a long run of bytes is cut after its beginning, with the number
of bytes left out.
-/

namespace WiperDriver.Bench.Transcript

/-- The most bytes that are written out. -/
def longest : Nat :=
  512

/-- How many bytes are written out of a longer run. -/
def beginning : Nat :=
  8

/-- A run of bytes; a dash if there are none. -/
def bytes (data : List UInt8) : String :=
  if data.isEmpty then "-"
  else if data.length ≤ longest then Text.hexBytes data
  else Text.hexBytes (data.take beginning) ++ "+" ++ toString (data.length - beginning)

/-- A slave address. -/
def address (number : Nat) : String :=
  "@" ++ String.ofList (Text.padded 16 2 number)

/-- A transaction on a bus without slave addresses. -/
def call : Bus.Call → String
  | .write data => "w " ++ bytes data
  | .writeRead data length => "r " ++ bytes data ++ " " ++ toString length

/-- A segment of a transaction. -/
def segment : Bus.Transactional.Segment → String
  | .write data => " [w " ++ bytes data ++ "]"
  | .read length => " [r " ++ toString length ++ "]"

/-- A transaction of segments. -/
def transaction (call : Bus.Transactional.Call) : String :=
  address call.address.toNat ++ String.join (call.segments.map segment)

/-- A blocking call. -/
def blocking : Bus.Blocking.Call → String
  | .write slave data => address slave.toNat ++ " w " ++ bytes data
  | .writeRead slave data length =>
    address slave.toNat ++ " r " ++ bytes data ++ " " ++ toString length

/-- A message of a combined transfer: its slave, its flags, and what is sent or how much is asked
for. -/
def message (message : Linux.Message) : String :=
  " [" ++ address message.address.toNat ++ " "
    ++ String.ofList (Text.padded 16 1 message.flags.toNat) ++ " "
    ++ (match message with
      | .outgoing _ length data => bytes (data.take length.toNat)
      | .incoming _ length => toString length.toNat)
    ++ "]"

/-- A control request with its number. -/
def request : Linux.Request → String
  | .functions => "ioctl 0705"
  | .tenBit argument => "ioctl 0704 " ++ toString argument.toNat
  | .timeout argument => "ioctl 0702 " ++ toString argument.toNat
  | .slave argument => "ioctl 0706 " ++ toString argument.toNat
  | .transfer messages => "ioctl 0707" ++ String.join (messages.map message)

/-- Opening a file. -/
def openFile (path : String) : String :=
  "open " ++ path ++ " rw"

/-- A plain write to the chosen slave. -/
def write (slave : Nat) (data : List UInt8) : String :=
  "write " ++ address slave ++ " " ++ bytes data

/-- The mark of a transaction that a fault fell on. -/
def faulty (line : String) : String :=
  line ++ " !"

end WiperDriver.Bench.Transcript
