import WiperDriver.Bench.Connection
import WiperDriver.Linux.Device.Lemmas
import WiperDriver.Proofs.Dialogue.Exchanges

/-!
# Connections that lead to the chip

Where no fault falls, a conversation over a connection that leads to the chip is a conversation with
the chip itself (`Connection.delivered`): the same value and the same lines, the same chip
afterwards, and one transaction on the bus for each that the driver makes. `Carries` says this for
one call of one kind of bus, adapter and bus taken together, and there is one proof of it for each
kind; `Carries.served` takes it to conversations.

The bench only differs from the chip in what it writes down, so `Served` leaves open what stands in
the transcript and fixes its length.
-/

namespace WiperDriver

/-- In shared hands that are free a bus is the bus itself. -/
theorem Bus.Shared.run_free {σ α : Type} (responder : Bus.Responder σ)
    (dialogue : Dialogue Bus.Call Bus.Answer α) {shared : Bus.Shared σ}
    (h : shared.held = false) :
    dialogue.run (Bus.Shared.respond responder) shared =
      let outcome := dialogue.run responder shared.bus
      ⟨outcome.value, { shared with bus := outcome.state }, outcome.events⟩ := by
  induction dialogue generalizing shared with
  | done value => rfl
  | say line next ih =>
    rw [Dialogue.run_say, ih h]
    rfl
  | ask call next ih =>
    rw [Dialogue.run_ask, Bus.Shared.respond_free responder call h]
    exact congrArg (Outcome.after _)
      (@ih (responder call shared.bus).1 { shared with bus := (responder call shared.bus).2 } h)

namespace Bench

variable {Call : Type} {Answer : Call → Type} {α : Type}

/-- The lengths of a transaction fit the messages of a combined transfer. -/
def Brief : Bus.Call → Prop
  | .write _ => True
  | .writeRead bytes length =>
    bytes.length ≤ Linux.Device.maxLength ∧ length ≤ Linux.Device.maxLength

/-- A world has served a conversation as the chip itself would have, and has written down as many
transactions as the chip would have seen. -/
structure Served (world : World) (ideal : Outcome Bus.Call Bus.Answer Chip α) (value : α)
    (lines : List Log.Line) (after : World) : Prop where
  value_eq : value = ideal.value
  lines_eq : lines = ideal.lines
  after_eq : after = { world with chip := ideal.state, transcript := after.transcript }
  size_eq : after.transcript.size = world.transcript.size + ideal.calls.length

/-- Serving a call and then the rest of a conversation is serving the conversation. -/
theorem Served.ask {call : Bus.Call} {next : Bus.Answer call → Dialogue Bus.Call Bus.Answer α}
    {world between after : World} {answer : Bus.Answer call} {value : α}
    {lines more : List Log.Line}
    (hfirst : Served world ((Dialogue.request call).run Chip.respond world.chip) answer lines
      between)
    (hrest : Served between ((next answer).run Chip.respond between.chip) value more after) :
    Served world ((Dialogue.ask call next).run Chip.respond world.chip) value (lines ++ more)
      after := by
  obtain ⟨hanswer, hlines, hbetween, hsize⟩ := hfirst
  obtain ⟨hvalue, hmore, hafter, hsize'⟩ := hrest
  have hchip : between.chip = (Chip.respond call world.chip).2 := by
    rw [hbetween]
    rfl
  have hideal : (Dialogue.ask call next).run Chip.respond world.chip =
      ((next answer).run Chip.respond between.chip).after (.answered call answer) := by
    rw [Dialogue.run_ask, hchip, hanswer]
    rfl
  rw [hideal]
  refine ⟨hvalue, ?_, ?_, ?_⟩
  · rw [hlines, hmore]
    rfl
  · rw [hafter, hbetween]
    rfl
  · rw [hsize', hsize, Nat.add_assoc, Nat.add_comm (List.length _)]
    rfl

/-- A kind of bus, behind its adapter, carries out every call as the chip itself does, wherever it
is ready to. -/
structure Carries (responder : Responder Call Answer World)
    (adapter : Adapter Bus.Call Bus.Answer Call Answer) (ready : World → Prop) : Prop where
  /-- One call is one transaction, and nothing is reported. -/
  call : ∀ call, Brief call → ∀ world, ready world →
    Served world ((Dialogue.request call).run Chip.respond world.chip)
      ((adapter call).run responder world).value ((adapter call).run responder world).lines
      ((adapter call).run responder world).state
  /-- It stays ready as transactions go by. -/
  kept : ∀ world chip transcript, ready world → ready { world with chip, transcript }

/-- **What holds of one call holds of a conversation.** -/
theorem Carries.served {responder : Responder Call Answer World}
    {adapter : Adapter Bus.Call Bus.Answer Call Answer} {ready : World → Prop}
    (h : Carries responder adapter ready) {dialogue : Dialogue Bus.Call Bus.Answer α}
    (hbrief : dialogue.Asks Brief) {world : World} (hready : ready world) :
    Served world (dialogue.run Chip.respond world.chip)
      ((dialogue.adapt adapter).run responder world).value
      ((dialogue.adapt adapter).run responder world).lines
      ((dialogue.adapt adapter).run responder world).state := by
  induction dialogue generalizing world with
  | done value => exact ⟨rfl, rfl, rfl, rfl⟩
  | say line next ih =>
    obtain ⟨hvalue, hlines, hafter, hsize⟩ := ih hbrief hready
    exact ⟨hvalue, congrArg (line :: ·) hlines, hafter, hsize⟩
  | ask call next ih =>
    have hfirst := h.call call hbrief.1 world hready
    have hready' : ready ((adapter call).run responder world).state := by
      rw [hfirst.after_eq]
      exact h.kept world _ _ hready
    rw [Dialogue.adapt_ask, Dialogue.run_bind, Outcome.lines, List.filterMap_append]
    exact hfirst.ask (ih _ (hbrief.2 _) hready')

/-! ## The buses -/

namespace World

/-- The world after a transaction that the chip has carried out. -/
def advance (world : World) (line : String) (chip : Chip) : World :=
  { world with chip, transcript := world.transcript.push line }

@[simp]
theorem chip_advance (world : World) (line : String) (chip : Chip) :
    (world.advance line chip).chip = chip :=
  rfl

@[simp]
theorem answersTo_advance (world : World) (line : String) (chip : Chip) (address : Nat) :
    (world.advance line chip).answersTo address = world.answersTo address :=
  rfl

/-- Of two changes to the chip during one transaction the later stays. -/
@[simp]
theorem setChip_advance (world : World) (line : String) (chip later : Chip) :
    { world.advance line chip with chip := later } = world.advance line later :=
  rfl

variable {world : World}

/-- Where there are no faults, a transaction is written down and takes place. -/
theorem attempt_of_faultless (h : world.faults = []) (line : String) :
    world.attempt line = (none, world.advance line world.chip) := by
  simp [attempt, h, advance]

theorem respond_of_faultless (h : world.faults = []) (call : Bus.Call) :
    World.respond call world = ((Chip.respond call world.chip).1,
      world.advance (Transcript.call call) (Chip.respond call world.chip).2) := by
  cases call <;> simp [respond, attempt_of_faultless h]

theorem respondTransactional_of_faultless (h : world.faults = []) {call : Bus.Transactional.Call}
    (hslave : world.answersTo call.address.toNat = true) :
    World.respondTransactional call world =
      (.ok (carryOut world.chip [] call.segments).1,
        world.advance (Transcript.transaction call) (carryOut world.chip [] call.segments).2) := by
  simp [respondTransactional, attempt_of_faultless h, hslave]

theorem respondBlocking_write (h : world.faults = []) {slave : UInt8}
    (hslave : world.answersTo slave.toNat = true) (bytes : List UInt8) :
    World.respondBlocking (.write slave bytes) world =
      (.ok (), world.advance (Transcript.blocking (.write slave bytes))
        (world.chip.absorb bytes)) := by
  simp [respondBlocking, attempt_of_faultless h, hslave]

theorem respondBlocking_writeRead (h : world.faults = []) {slave : UInt8}
    (hslave : world.answersTo slave.toNat = true) (bytes : List UInt8) (length : Nat) :
    World.respondBlocking (.writeRead slave bytes length) world =
      (.ok ((world.chip.absorb bytes).answer bytes length),
        world.advance (Transcript.blocking (.writeRead slave bytes length))
          (world.chip.absorb bytes)) := by
  simp [respondBlocking, attempt_of_faultless h, hslave]

/-- A plain write to the slave that was chosen for it. -/
theorem respondKernel_write (h : world.faults = []) {file : Linux.Descriptor} {entry : OpenFile}
    (hentry : world.files[file.number]? = some entry)
    (hslave : world.answersTo entry.slave.toNat = true) (bytes : List UInt8) :
    World.respondKernel (.write file bytes) world =
      (.ok bytes.length, world.advance (Transcript.write entry.slave.toNat bytes)
        (world.chip.absorb bytes)) := by
  simp [respondKernel, hentry, attempt_of_faultless h, hslave]

/-- A combined transfer of two messages to one slave. The chip is sent as many bytes as the length
of the first message says. -/
theorem transfer_pair {slave : UInt16} (hslave : world.answersTo slave.toNat = true)
    (count length : UInt16) (bytes : List UInt8) :
    world.transfer [] [.outgoing slave count bytes, .incoming slave length] =
      (.ok ((world.chip.absorb (bytes.take count.toNat)).answer (bytes.take count.toNat)
          length.toNat),
        { world with chip := world.chip.absorb (bytes.take count.toNat) }) := by
  have hslave' (chip : Chip) : { world with chip }.answersTo slave.toNat = true := hslave
  simp [transfer, Linux.Message.address, hslave, hslave', Except.map]

/-- A control request on an open file. -/
theorem respondKernel_control (h : world.faults = []) {file : Linux.Descriptor}
    {entry : OpenFile} (hentry : world.files[file.number]? = some entry)
    (request : Linux.Request) :
    World.respondKernel (.control file request) world =
      (world.advance (Transcript.request request) world.chip).control file entry request := by
  simp [respondKernel, hentry, attempt_of_faultless h]

/-- Opening the device file of a bus. -/
theorem respondKernel_openFile (h : world.faults = []) {path name : String} {mask : UInt64}
    (hfile : world.buses.find? (fun file => "/dev/i2c-" ++ file.1 = path) = some (name, mask)) :
    World.respondKernel (.openFile path) world =
      (.ok ⟨world.files.size⟩, { world.advance (Transcript.openFile path) world.chip with
        files := world.files.push ⟨mask, 0⟩ }) := by
  simp [respondKernel, attempt_of_faultless h, advance, hfile]

end World

/-- One answer of the chip and one line in the transcript serve a call. -/
theorem served_advance {world : World} {call : Bus.Call} {answer : Bus.Answer call}
    (h : answer = (Chip.respond call world.chip).1) (line : String) :
    Served world ((Dialogue.request call).run Chip.respond world.chip) answer []
      (world.advance line (Chip.respond call world.chip).2) :=
  ⟨h, rfl, rfl, Array.size_push _⟩

/-- The bus that leads to the chip alone carries out every call. -/
theorem carries_direct : Carries World.respond Dialogue.request (·.faults = []) := by
  refine ⟨fun call _ world hready => ?_, fun _ _ _ => id⟩
  show Served _ _ (World.respond call world).1 [] (World.respond call world).2
  rw [World.respond_of_faultless hready]
  exact served_advance rfl _

/-- There are no faults, and the chip is the slave of an address. -/
def Answers (slave : UInt8) (world : World) : Prop :=
  world.faults = [] ∧ world.answersTo slave.toNat = true

/-- So does a bus that takes whole transactions, with the slave that the chip is. -/
theorem carries_transactional (pins : Pins) :
    Carries World.respondTransactional (Bus.Transactional.adapter pins)
      (Answers pins.slaveAddress.toUInt8) := by
  refine ⟨fun call _ world ⟨hfaults, hslave⟩ => ?_, fun _ _ _ => id⟩
  cases call with
  | write bytes =>
    let sent : Bus.Transactional.Call := ⟨pins.slaveAddress.toUInt8, [.write bytes]⟩
    show Served _ _ (((World.respondTransactional sent world).1.mapError
      Bus.Transactional.BusError.failure).map _) [] (World.respondTransactional sent world).2
    rw [World.respondTransactional_of_faultless hfaults hslave]
    exact served_advance rfl _
  | writeRead bytes length =>
    let sent : Bus.Transactional.Call :=
      ⟨pins.slaveAddress.toUInt8, [.write bytes, .read length]⟩
    show Served _ _ (((World.respondTransactional sent world).1.mapError
      Bus.Transactional.BusError.failure).map _) [] (World.respondTransactional sent world).2
    rw [World.respondTransactional_of_faultless hfaults hslave]
    refine served_advance ?_ _
    show Except.ok (Bus.Reading.mk length (_ ++ [])) = _
    rw [List.append_nil]
    rfl

/-- So does a bus with two blocking calls. -/
theorem carries_blocking (pins : Pins) :
    Carries World.respondBlocking (Bus.Blocking.adapter pins)
      (Answers pins.slaveAddress.toUInt8) := by
  refine ⟨fun call _ world ⟨hfaults, hslave⟩ => ?_, fun _ _ _ => id⟩
  cases call with
  | write bytes =>
    let sent := Bus.Blocking.Call.write pins.slaveAddress.toUInt8 bytes
    show Served _ _ ((World.respondBlocking sent world).1.mapError Bus.Blocking.failure) []
      (World.respondBlocking sent world).2
    rw [World.respondBlocking_write hfaults hslave]
    exact served_advance rfl _
  | writeRead bytes length =>
    let sent := Bus.Blocking.Call.writeRead pins.slaveAddress.toUInt8 bytes length
    show Served _ _ (((World.respondBlocking sent world).1.mapError Bus.Blocking.failure).map _) []
      (World.respondBlocking sent world).2
    rw [World.respondBlocking_writeRead hfaults hslave]
    exact served_advance rfl _

/-! ## Device files -/

/-- There are no faults, and the chip is the slave of a device with combined transfers: the one that
the handle names in its messages, and the one that was chosen for plain writes. -/
structure Chosen (device : Linux.Device) (world : World) : Prop where
  faults : world.faults = []
  combined : device.capabilities.combined = true
  named : world.answersTo device.slave.toNat = true
  chosen : ∃ entry, world.files[device.file.number]? = some entry ∧
    world.answersTo entry.slave.toNat = true

/-- A length of at most 16 bits is its own message length. -/
theorem toNat_ofNat_length {length : Nat} (h : length ≤ Linux.Device.maxLength) :
    (UInt16.ofNat length).toNat = length := by
  rw [Linux.Device.maxLength] at h
  rw [UInt16.toNat_ofNat', Nat.mod_eq_of_lt (by omega)]

/-- And so does a device whose slave is the chip. -/
theorem carries_device (device : Linux.Device) :
    Carries World.respondKernel device.adapter (Chosen device) := by
  refine ⟨fun call hbrief world hchosen => ?_, fun _ _ _ h => ⟨h.1, h.2, h.3, h.4⟩⟩
  obtain ⟨hfaults, hcombined, hnamed, entry, hentry, hslave⟩ := hchosen
  cases call with
  | write bytes =>
    rw [Linux.Device.adapter_write, Dialogue.run_ask,
      World.respondKernel_write hfaults hentry hslave]
    simp only [if_true]
    exact served_advance rfl _
  | writeRead bytes length =>
    have hfits : bytes.length ≤ Linux.Device.maxLength ∧ length ≤ Linux.Device.maxLength := hbrief
    rw [Linux.Device.adapter_writeRead, Linux.Device.run_writeRead, if_pos hcombined,
      if_pos hfits, Dialogue.ask_bind, Dialogue.run_ask,
      World.respondKernel_control hfaults hentry, World.control,
      World.transfer_pair ((World.answersTo_advance ..).trans hnamed),
      toNat_ofNat_length hfits.1, toNat_ofNat_length hfits.2, List.take_length]
    exact served_advance rfl _

/-! ## Opening a device file -/

section

variable {world : World}

/-- Opening a bus that has a device file adds an open file without a slave. -/
theorem run_openBus_of_faultless (h : world.faults = []) {bus : UInt8} {name : String}
    {mask : UInt64}
    (hfile : world.buses.find? (fun file => "/dev/i2c-" ++ file.1 = Linux.Device.path bus) =
      some (name, mask)) :
    let outcome := (Linux.Device.openBus bus 0).run.run World.respondKernel world
    outcome.value = .ok { bus, capabilities := ⟨mask⟩, file := ⟨world.files.size⟩, slave := 0 } ∧
      ∃ transcript,
        outcome.state = { world with files := world.files.push ⟨mask, 0⟩, transcript } := by
  rw [Linux.Device.run_openBus, Linux.Device.run_openFile_zero, Dialogue.ask_bind,
    Dialogue.run_ask, World.respondKernel_openFile h hfile]
  generalize hopened : ({ world.advance (Transcript.openFile (Linux.Device.path bus)) world.chip
    with files := world.files.push ⟨mask, 0⟩ } : World) = opened
  have hfaults : opened.faults = [] := by
    rw [← hopened]
    exact h
  have hentry : opened.files[(Linux.Descriptor.mk world.files.size).number]? = some ⟨mask, 0⟩ := by
    rw [← hopened]
    exact Array.getElem?_push_size
  have hcontrol (line : String) (request : Linux.Request) := World.respondKernel_control
    (show (opened.advance line opened.chip).faults = [] from hfaults) hentry request
  simp only [Linux.Device.checked_ok, Dialogue.done_bind]
  rw [Dialogue.run_ask, World.respondKernel_control hfaults hentry]
  simp only [World.control]
  split
  · rw [Dialogue.run_ask, hcontrol]
    subst hopened
    exact ⟨rfl, _, rfl⟩
  · subst hopened
    exact ⟨rfl, _, rfl⟩

/-- Choosing a slave of a device whose file is open. -/
theorem run_selectSlave_of_faultless (h : world.faults = []) {device : Linux.Device}
    {entry : OpenFile} (hentry : world.files[device.file.number]? = some entry)
    {address : UInt16} (haddress : Linux.Device.assignable address = true) :
    let outcome := ((Linux.Device.selectSlave address).run.run device).run World.respondKernel world
    outcome.value = (.ok (), { device with slave := address }) ∧
      ∃ transcript, outcome.state = { world with
        files := world.files.setIfInBounds device.file.number
          { entry with slave := address.toUInt64 }, transcript } := by
  rw [Linux.Device.run_selectSlave, if_pos haddress, Dialogue.run_ask,
    World.respondKernel_control h hentry]
  exact ⟨rfl, _, rfl⟩

/-- The slave address of a chip with pins can be assigned to a device. -/
theorem assignable_slaveAddress (pins : Pins) :
    Linux.Device.assignable pins.slaveAddress = true := by
  rcases pins with ⟨a0, a1, a2⟩
  cases a0 <;> cases a1 <;> cases a2 <;> decide

/-- **Opening a bus for the slave that the chip is** gives a device whose slave is the chip. -/
theorem chosen_openSlave (h : world.faults = []) {bus : UInt8} {name : String} {mask : UInt64}
    (hfile : world.buses.find? (fun file => "/dev/i2c-" ++ file.1 = Linux.Device.path bus) =
      some (name, mask)) (hmask : (Linux.Capabilities.mk mask).combined = true) {pins : Pins}
    (hslave : world.answersTo pins.slaveAddress.toNat = true) :
    let outcome := (Linux.Device.openSlave bus pins 0).run.run World.respondKernel world
    ∃ device, outcome.value = .ok device ∧ Chosen device outcome.state ∧
      outcome.state.chip = world.chip := by
  obtain ⟨hopened, transcript, hbetween⟩ := run_openBus_of_faultless h hfile
  rw [Linux.Device.run_openSlave, Dialogue.run_bind]
  simp only [hopened, hbetween, Dialogue.run_bind]
  generalize hworld : ({ world with files := world.files.push ⟨mask, 0⟩, transcript } : World) =
    between
  have hfaults : between.faults = [] := by
    rw [← hworld]
    exact h
  have hentry : between.files[world.files.size]? = some ⟨mask, 0⟩ := by
    rw [← hworld]
    exact Array.getElem?_push_size
  obtain ⟨hchosen, later, hafter⟩ := @run_selectSlave_of_faultless between hfaults
    { bus, capabilities := ⟨mask⟩, file := ⟨world.files.size⟩, slave := 0 } ⟨mask, 0⟩ hentry _
    (assignable_slaveAddress pins)
  simp only [hchosen, hafter]
  refine ⟨_, rfl, ⟨hfaults, hmask, ?_, ⟨mask, pins.slaveAddress.toUInt64⟩, ?_, ?_⟩, ?_⟩
  · subst hworld
    exact hslave
  · show (between.files.setIfInBounds world.files.size _)[world.files.size]? = _
    obtain ⟨hbound, -⟩ := Array.getElem?_eq_some_iff.1 hentry
    rw [Array.getElem?_setIfInBounds_self, if_pos hbound]
  · subst hworld
    rw [UInt16.toNat_toUInt64]
    exact hslave
  · subst hworld
    rfl

end

/-! ## Connections -/

/-- Where a connection leads to the chip, and no fault falls on the way. -/
def Connection.Leads : Connection → State → Prop
  | .direct, state | .exclusive, state => state.bus.faults = []
  | .shared, state => state.held = false ∧ state.bus.faults = []
  | .transactional pins _, state | .blocking pins _, state =>
    Answers pins.slaveAddress.toUInt8 state.bus
  | .device target, state => Chosen target state.bus

/-- Nothing has changed but the chip and the transcript. -/
def Undisturbed (state later : State) : Prop :=
  later.held = state.held ∧
    ∃ chip transcript, later.bus = { state.bus with chip, transcript }

/-- A connection goes on leading to the chip. -/
theorem Connection.Leads.later {connection : Connection} {state later : State}
    (h : connection.Leads state) (hlater : Undisturbed state later) : connection.Leads later := by
  obtain ⟨hheld, chip, transcript, hbus⟩ := hlater
  cases connection with
  | direct | exclusive =>
    show later.bus.faults = []
    rw [hbus]
    exact h
  | shared =>
    refine ⟨hheld.trans h.1, ?_⟩
    rw [hbus]
    exact h.2
  | transactional pins calls | blocking pins calls =>
    show Answers _ later.bus
    rw [hbus]
    exact h
  | device target =>
    show Chosen target later.bus
    rw [hbus]
    exact (carries_device target).kept _ _ _ h

/-- What is served leaves the rest undisturbed. -/
theorem Served.undisturbed {state : State} {ideal : Outcome Bus.Call Bus.Answer Chip α} {value : α}
    {lines : List Log.Line} {after : World} (h : Served state.bus ideal value lines after) :
    Undisturbed state { state with bus := after } :=
  ⟨rfl, ideal.state, after.transcript, h.after_eq⟩

/-- A conversation over a connection has ended as with the chip itself, and the connection goes on
leading to where it led. -/
structure Connection.Delivered (connection : Connection) (state : State)
    (dialogue : Dialogue Bus.Call Bus.Answer α) (exchange : Exchange α) : Prop where
  served : Served state.bus (dialogue.run Chip.respond state.bus.chip) exchange.value
    exchange.lines exchange.state.bus
  undisturbed : Undisturbed state exchange.state
  leads : ∀ later, connection.Leads later → exchange.connection.Leads later

/-- **A connection that leads to the chip is as good as the chip.** -/
theorem Connection.delivered {connection : Connection} {state : State}
    (h : connection.Leads state) {dialogue : Dialogue Bus.Call Bus.Answer α}
    (hbrief : dialogue.Asks Brief) :
    connection.Delivered state dialogue (connection.converse dialogue state) := by
  cases connection with
  | direct =>
    have hserved := carries_direct.served hbrief h
    rw [Dialogue.adapt_request] at hserved
    exact ⟨hserved, hserved.undisturbed, fun _ => id⟩
  | exclusive =>
    have hserved := carries_direct.served hbrief h
    rw [Dialogue.adapt_request] at hserved
    unfold converse
    rw [Bus.adapt_lent]
    exact ⟨hserved, hserved.undisturbed, fun _ => id⟩
  | shared =>
    have hserved := carries_direct.served hbrief h.2
    rw [Dialogue.adapt_request] at hserved
    unfold converse
    rw [Bus.Shared.run_free World.respond dialogue h.1]
    exact ⟨hserved, hserved.undisturbed, fun _ => id⟩
  | transactional pins calls =>
    have hserved := (carries_transactional pins).served hbrief h
    exact ⟨hserved, hserved.undisturbed, fun _ => id⟩
  | blocking pins calls =>
    have hserved := (carries_blocking pins).served hbrief h
    exact ⟨hserved, hserved.undisturbed, fun _ => id⟩
  | device target =>
    have hserved := (carries_device target).served hbrief h
    exact ⟨hserved, hserved.undisturbed, fun _ => id⟩

end Bench

end WiperDriver
