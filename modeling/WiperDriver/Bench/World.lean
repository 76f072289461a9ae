import WiperDriver.Bench.Fault
import WiperDriver.Bench.Transcript
import WiperDriver.Chip
import WiperDriver.Linux.Device

/-!
# The bench

One chip that can be reached over buses of every kind, and a list of faults. Every transaction is
counted, written down, and checked against the faults; the first fault that covers it decides, and
the chip is then left alone unless the transaction is merely cut short. What is left is carried out
on the chip, provided that it is the chip's own address the transaction went to.
-/

namespace WiperDriver.Bench

/-- A device file that is open: what its bus driver can do, and the slave that was chosen. -/
structure OpenFile where
  functions : UInt64
  slave : UInt64
  deriving DecidableEq, Repr, Inhabited

/-- The chip and everything around it. -/
structure World where
  chip : Chip
  /-- The chip's slave address; without one it answers to every address. -/
  address : Option UInt16
  /-- The function mask of each bus that has a device file, by the bus's name. -/
  buses : List (String × UInt64)
  /-- The open device files; a descriptor's number is the place of its file. -/
  files : Array OpenFile
  /-- The faults, in order of precedence. -/
  faults : List Fault
  /-- Every transaction so far. -/
  transcript : Array String

namespace World

/-- Writes a transaction down and finds the fault that falls on it. -/
def attempt (world : World) (line : String) : Option Fault × World :=
  let fault := world.faults.find? (·.covers world.transcript.size)
  let line := if fault.isSome then Transcript.faulty line else line
  (fault, { world with transcript := world.transcript.push line })

/-- How many more transactions it takes until one and the same fault, or none, falls on all that
follow. An attempt that still fails then will fail for ever, so this is patience enough for opening
a device file (`openBus_of_unsettled_le`). -/
def unsettled (world : World) : Nat :=
  world.faults.foldr (fun fault latest => max fault.settled latest) 0 - world.transcript.size

/-- Once the faults have settled, the first one without an end decides. -/
theorem find?_covers_of_unsettled (world : World) {number : Nat}
    (h : world.transcript.size + world.unsettled ≤ number) :
    world.faults.find? (·.covers number) = world.faults.find? (·.count.isNone) := by
  have latest : world.faults.foldr (fun fault latest => max fault.settled latest) 0 ≤ number := by
    unfold unsettled at h
    omega
  generalize world.faults = faults at latest
  induction faults with
  | nil => rfl
  | cons fault rest ih =>
    rw [List.foldr_cons] at latest
    have first := Fault.covers_of_settled (Nat.le_trans (Nat.le_max_left _ _) latest)
    rw [List.find?_cons, List.find?_cons, first,
      ih (Nat.le_trans (Nat.le_max_right _ _) latest)]

/-- Whether the chip answers to a slave address. -/
def answersTo (world : World) (address : Nat) : Bool :=
  world.address.all (·.toNat = address)

/-! ## The buses -/

/-- The bus that leads to the chip and nowhere else. Reading may be cut short by a fault: the chip
is read all the same, but another byte count is reported. -/
def respond : Bus.Responder World
  | .write bytes, world =>
    match world.attempt (Transcript.call (.write bytes)) with
    | (some fault, world) => (.error fault.failure, world)
    | (none, world) =>
      let (answer, chip) := Chip.respond (.write bytes) world.chip
      (answer, { world with chip })
  | .writeRead bytes length, world =>
    let (fault, world) := world.attempt (Transcript.call (.writeRead bytes length))
    let (answer, chip) := Chip.respond (.writeRead bytes length) world.chip
    match fault with
    | none => (answer, { world with chip })
    | some fault =>
      match fault.short with
      | some count =>
        (answer.map fun reading => { reading with count := count.toNat }, { world with chip })
      | none => (.error fault.failure, world)

/-- Carries out segments on the chip. A receiving segment is answered by the bytes sent last. -/
def carryOut (chip : Chip) (sent : List UInt8) :
    List Bus.Transactional.Segment → List UInt8 × Chip
  | [] => ([], chip)
  | .write bytes :: rest => carryOut (chip.absorb bytes) bytes rest
  | .read length :: rest =>
    let (data, final) := carryOut chip sent rest
    (chip.answer sent length ++ data, final)

/-- The bus that takes whole transactions. -/
def respondTransactional : Responder Bus.Transactional.Call Bus.Transactional.Answer World :=
  fun call world =>
    match world.attempt (Transcript.transaction call) with
    | (some fault, world) => (.error fault.busError, world)
    | (none, world) =>
      if world.answersTo call.address.toNat then
        let (data, chip) := carryOut world.chip [] call.segments
        (.ok data, { world with chip })
      else
        let kind := Bus.Transactional.ErrorKind.noAcknowledge .address
        (.error ⟨kind, kind.name⟩, world)

/-- What the blocking bus says of a slave that is not there. -/
def notAcknowledged : String :=
  "nack"

/-- The bus with two blocking calls. -/
def respondBlocking : Responder Bus.Blocking.Call Bus.Blocking.Answer World
  | .write slave bytes, world =>
    match world.attempt (Transcript.blocking (.write slave bytes)) with
    | (some fault, world) => (.error fault.failure.text, world)
    | (none, world) =>
      if world.answersTo slave.toNat then
        (.ok (), { world with chip := world.chip.absorb bytes })
      else (.error notAcknowledged, world)
  | .writeRead slave bytes length, world =>
    match world.attempt (Transcript.blocking (.writeRead slave bytes length)) with
    | (some fault, world) => (.error fault.failure.text, world)
    | (none, world) =>
      if world.answersTo slave.toNat then
        let chip := world.chip.absorb bytes
        (.ok (chip.answer bytes length), { world with chip })
      else (.error notAcknowledged, world)

/-! ## The kernel -/

/-- Carries out the messages of a combined transfer. The first one to a slave that is not there ends
it. -/
def transfer (world : World) (sent : List UInt8) :
    List Linux.Message → Except Linux.Errno (List UInt8) × World
  | [] => (.ok [], world)
  | message :: rest =>
    if world.answersTo message.address.toNat then
      match message with
      | .outgoing _ length bytes =>
        let bytes := bytes.take length.toNat
        transfer { world with chip := world.chip.absorb bytes } bytes rest
      | .incoming _ length =>
        let (answer, final) := transfer world sent rest
        (answer.map (world.chip.answer sent length.toNat ++ ·), final)
    else
      (.error .noDeviceOrAddress, world)

/-- Carries out a control request on an open file. -/
def control (world : World) (file : Linux.Descriptor) (entry : OpenFile) :
    (request : Linux.Request) → Except Linux.Errno request.Answer × World
  | .functions => (.ok entry.functions, world)
  | .tenBit _ => (.ok (), world)
  | .timeout _ => (.ok (), world)
  | .slave argument =>
    let files := world.files.setIfInBounds file.number { entry with slave := argument }
    (.ok (), { world with files })
  | .transfer messages => world.transfer [] messages

/-- The kernel. A descriptor that was never handed out is a bad one. -/
def respondKernel : Responder Linux.SystemCall Linux.SystemCall.Answer World
  | .openFile path, world =>
    match world.attempt (Transcript.openFile path) with
    | (some fault, world) => (.error fault.errno, world)
    | (none, world) =>
      match world.buses.find? fun bus => "/dev/i2c-" ++ bus.1 = path with
      | some (_, functions) =>
        (.ok ⟨world.files.size⟩, { world with files := world.files.push ⟨functions, 0⟩ })
      | none => (.error .noEntry, world)
  | .control file request, world =>
    match world.files[file.number]? with
    | none => (.error .badDescriptor, world)
    | some entry =>
      match world.attempt (Transcript.request request) with
      | (some fault, world) => (.error fault.errno, world)
      | (none, world) => world.control file entry request
  | .write file bytes, world =>
    match world.files[file.number]? with
    | none => (.error .badDescriptor, world)
    | some entry =>
      match world.attempt (Transcript.write entry.slave.toNat bytes) with
      | (some fault, world) =>
        match fault.short with
        | some count => (.ok count.toNat, world)
        | none => (.error fault.errno, world)
      | (none, world) =>
        if world.answersTo entry.slave.toNat then
          (.ok bytes.length, { world with chip := world.chip.absorb bytes })
        else
          (.error .noDeviceOrAddress, world)

end World

end WiperDriver.Bench
