import WiperDriver.Bus
import WiperDriver.Linux.Error
import WiperDriver.Linux.SystemCall
import WiperDriver.SlaveAddress

/-!
# Linux I2C devices

A handle on `/dev/i2c-N` that talks to one slave at a time. The slave address is kept twice: by the
kernel, for plain writes, and in the handle, for the messages of combined transfers. Choosing a
slave sets the kernel's copy first and the handle's only if that succeeded.

A system call that fails is not repeated, but for one case: opening the file is tried again when a
signal interrupts it. How often is the caller's choice.
-/

namespace WiperDriver.Linux

/-- The function mask of a bus driver. -/
structure Capabilities where
  mask : UInt64
  deriving DecidableEq, Repr, Inhabited

namespace Capabilities

/-- Whether there are combined transfers. -/
def combined (capabilities : Capabilities) : Bool :=
  capabilities.mask &&& 0x1 != 0

/-- Whether there are 10-bit slave addresses. -/
def tenBit (capabilities : Capabilities) : Bool :=
  capabilities.mask &&& 0x2 != 0

end Capabilities

/-- A handle on the device file of a bus. -/
structure Device where
  bus : UInt8
  capabilities : Capabilities
  file : Descriptor
  /-- The chosen slave, or zero before one is chosen. -/
  slave : UInt16
  deriving DecidableEq, Repr, Inhabited

namespace Device

/-- A conversation with the kernel that may fail. -/
abbrev Conversation (α : Type) : Type :=
  ExceptT Error (Dialogue SystemCall SystemCall.Answer) α

/-- An operation on a handle: a conversation with the kernel that may fail and may change the
handle. -/
abbrev Program (α : Type) : Type :=
  ExceptT Error (StateT Device (Dialogue SystemCall SystemCall.Answer)) α

/-- The kernel's answer, with an error number turned into the failure it stands for. -/
def checked {α : Type} (answer : Except Errno α) : Except Error α :=
  answer.mapError fun errno => .io errno.failure

/-- Opens a file for reading and writing. Where a signal interrupts an attempt, the next one is made
at once, and any other answer stands. The loop by which files are opened has no limit and is not for
the caller to set; `patience` bounds it here, so that it ends. -/
def openFile (path : String) : (patience : Nat) → Conversation Descriptor
  | 0 => ExceptT.mk (checked <$> Dialogue.request (SystemCall.openFile path))
  | patience + 1 => ExceptT.mk do
    match ← Dialogue.request (SystemCall.openFile path) with
    | .ok file => return .ok file
    | .error errno =>
      if errno = .interrupted then (openFile path patience).run
      else return .error (.io errno.failure)

/-- Sends a control request. -/
def control (file : Descriptor) (request : Request) : Conversation request.Answer :=
  ExceptT.mk (checked <$> Dialogue.request (SystemCall.control file request))

/-- Writes bytes to a file and says how many were taken. -/
def writeFile (file : Descriptor) (bytes : List UInt8) : Conversation Nat :=
  ExceptT.mk (checked <$> Dialogue.request (SystemCall.write file bytes))

/-- A conversation with the kernel as an operation on a handle, which does not change it. -/
def access {α : Type} (conversation : Conversation α) : Program α :=
  ExceptT.mk (StateT.lift conversation.run)

/-! ## Choosing a slave -/

/-- Whether a slave address can be assigned to a device: seven bits, outside the reserved blocks of
eight at both ends. -/
def assignable (address : UInt16) : Bool :=
  0x08 ≤ address && address ≤ 0x77

/-- Chooses the slave that later transfers go to. -/
def selectSlave (address : UInt16) : Program Unit := do
  if assignable address then
    let device ← get
    access (control device.file (.slave address.toUInt64))
    set { device with slave := address }
  else
    throw (.invalidSlaveAddress address)

/-! ## Opening -/

/-- The device file of a bus. -/
def path (bus : UInt8) : String :=
  "/dev/i2c-" ++ toString bus.toNat

/-- Opens a bus with no slave chosen. A bus driver that knows 10-bit addresses is told to use 7-bit
ones. -/
def openBus (bus : UInt8) (patience : Nat) : Conversation Device := do
  let file ← openFile (path bus) patience
  let mask ← control file .functions
  let capabilities : Capabilities := ⟨mask⟩
  if capabilities.tenBit then
    control file (.tenBit 0)
  return { bus, capabilities, file, slave := 0 }

/-- Opens a bus and chooses the slave whose address pins are given. -/
def openSlave (bus : UInt8) (pins : Pins) (patience : Nat) : Conversation Device := do
  let device ← openBus bus patience
  let (answer, device) ← ExceptT.lift ((selectSlave pins.slaveAddress).run.run device)
  match answer with
  | .ok () => return device
  | .error error => throw error

/-! ## Transfers -/

/-- Sets how long a transfer may take. The kernel counts in hundredths of a second. -/
def setTimeout (milliseconds : UInt32) : Program Unit := do
  let device ← get
  access (control device.file (.timeout (milliseconds / 10).toUInt64))

/-- Sends bytes to the chosen slave and says how many were taken. -/
def write (bytes : List UInt8) : Program Nat := do
  let device ← get
  access (writeFile device.file bytes)

/-- The longest message of a combined transfer: its length is a 16-bit number. -/
def maxLength : Nat :=
  65535

/-- The failure of a transfer with a message that is too long. -/
def tooLong : Failure where
  kind := .invalidInput
  text := "buffer exceeds maximum transfer length"

/-- Sends bytes and receives some in one combined transfer. A bus driver without such transfers is
refused whatever the lengths, and lengths that no message can carry before anything is sent. -/
def writeRead (bytes : List UInt8) (length : Nat) : Program Bus.Reading := do
  let device ← get
  if device.capabilities.combined then
    if bytes.length ≤ maxLength ∧ length ≤ maxLength then
      let data ← access (control device.file (.transfer
        [.outgoing device.slave (UInt16.ofNat bytes.length) bytes,
          .incoming device.slave (UInt16.ofNat length)]))
      return ⟨length, data⟩
    else
      throw (.io tooLong)
  else
    throw .featureNotSupported

/-- The failure of a write of which only a part was taken. -/
def shortWrite (taken length : Nat) : Failure where
  kind := .writeZero
  text := "wrote " ++ toString taken ++ " of " ++ toString length ++ " bytes"

/-- Carries out what the driver asks on a handle, which no transfer changes. A write that was not
taken whole is a failure. -/
def adapter (device : Device) : Adapter Bus.Call Bus.Answer SystemCall SystemCall.Answer
  | .write bytes => do
    let (answer, _) ← (write bytes).run.run device
    match answer with
    | .ok taken =>
      if taken = bytes.length then return .ok () else return .error (shortWrite taken bytes.length)
    | .error error => return .error error.failure
  | .writeRead bytes length => do
    let (answer, _) ← (writeRead bytes length).run.run device
    return answer.mapError Error.failure

end Device

end WiperDriver.Linux
