import WiperDriver.Bench.World
import WiperDriver.Linux.Device.Operation
import WiperDriver.Proofs.Linux.Opening

/-!
# One slave for both ways

The slave that a device talks to is kept twice: the kernel sends plain writes to the address it
keeps for the open file, and a combined transfer carries the address that the handle keeps in each
of its messages. `Settled` says that the two are the same, zero until a slave has been chosen and
assignable ever after. Opening brings it about, every operation keeps it whichever call fails
(`Settled.attempt`), and so it holds all along the `Life` of a handle.
-/

namespace WiperDriver.Linux.Device

variable {σ : Type} {kernel : Responder SystemCall SystemCall.Answer σ}
  {held : σ → Descriptor → UInt64}

/-! ## The kernel's part -/

/-- The address that a system call makes the kernel keep for a file, if it makes it keep another:
none when the file has just been opened, and the chosen one once a choice of a slave succeeds. -/
def kept? (file : Descriptor) : (call : SystemCall) → call.Answer → Option UInt64
  | .openFile _, .ok opened => if opened = file then some 0 else none
  | .control chosen (.slave argument), .ok () => if chosen = file then some argument else none
  | _, _ => none

/-- A kernel that keeps a slave address for every open file, and changes it by nothing but a
successful call that is to change it. -/
def KeepsSlaves (kernel : Responder SystemCall SystemCall.Answer σ)
    (held : σ → Descriptor → UInt64) : Prop :=
  ∀ call state file, held (kernel call state).2 file =
    (kept? file call (kernel call state).1).getD (held state file)

/-- The slaves that a system call makes the kernel talk to, in order. -/
def slaves (held : σ → Descriptor → UInt64) (state : σ) : SystemCall → List UInt64
  | .write file _ => [held state file]
  | .control _ (.transfer messages) => messages.map (·.address.toUInt64)
  | _ => []

/-! ## Handles -/

/-- Performs an operation on a handle. -/
def attempt (kernel : Responder SystemCall SystemCall.Answer σ) (operation : Operation)
    (device : Device) (state : σ) :
    Outcome SystemCall SystemCall.Answer σ (Except Error Result × Device) :=
  (operation.perform.run.run device).run kernel state

/-- What has been done with a handle, and with which results. -/
abbrev History : Type :=
  List (Operation × Except Error Result)

/-- The slave of an operation that has chosen one. -/
def chosen? : Operation × Except Error Result → Option UInt16
  | (.selectSlave address, .ok _) => some address
  | _ => none

/-- The slave that was chosen last. -/
def History.last? (history : History) : Option UInt16 :=
  (history.filterMap chosen?).getLast?

/-- The life of a handle: opened for a slave or for none, operations on it, and in between anything
that leaves the address alone that the kernel keeps for its file. -/
inductive Life (kernel : Responder SystemCall SystemCall.Answer σ)
    (held : σ → Descriptor → UInt64) : History → Device → σ → Prop
  | opened (bus : UInt8) (patience : Nat) (state : σ) {device : Device}
    (h : ((openBus bus patience).run.run kernel state).value = .ok device) :
    Life kernel held [] device ((openBus bus patience).run.run kernel state).state
  | bound (bus : UInt8) (pins : Pins) (patience : Nat) (state : σ) {device : Device}
    (h : ((openSlave bus pins patience).run.run kernel state).value = .ok device) :
    Life kernel held [(.selectSlave pins.slaveAddress, .ok .done)] device
      ((openSlave bus pins patience).run.run kernel state).state
  | performed {history : History} {device : Device} {state : σ}
    (h : Life kernel held history device state) (operation : Operation) :
    Life kernel held
      (history ++ [(operation, (attempt kernel operation device state).value.1)])
      (attempt kernel operation device state).value.2
      (attempt kernel operation device state).state
  | elsewhere {history : History} {device : Device} {state : σ}
    (h : Life kernel held history device state) (after : σ)
    (hheld : held after device.file = held state device.file) :
    Life kernel held history device after

/-- The handle and the kernel agree on the slave, which is the one chosen last, or zero if none has
been; a chosen one is assignable. -/
structure Settled (held : σ → Descriptor → UInt64) (history : History) (device : Device)
    (state : σ) : Prop where
  slave : device.slave = history.last?.getD 0
  held : held state device.file = device.slave.toUInt64
  range : ∀ address, history.last? = some address → 0x08 ≤ address.toNat ∧ address.toNat ≤ 0x77

/-! ## What a run leaves with the kernel -/

/-- The address kept for a file after an exchange. -/
def keep (file : Descriptor) (address : UInt64) (exchange : Exchange) : UInt64 :=
  (kept? file exchange.1 exchange.2).getD address

/-- The address that a run leaves for a file is what its exchanges make of the one before. -/
theorem held_run {α : Type} (hkernel : KeepsSlaves kernel held) (file : Descriptor)
    (dialogue : Dialogue SystemCall SystemCall.Answer α) (state : σ) :
    held (dialogue.run kernel state).state file =
      (dialogue.run kernel state).exchanges.foldl (keep file) (held state file) := by
  induction dialogue generalizing state with
  | done value => rfl
  | say line next ih => exact ih state
  | ask call next ih =>
    rw [Dialogue.run_ask, Outcome.exchanges_after_answered, List.foldl_cons]
    refine (ih _ _).trans ?_
    rw [hkernel]
    rfl

/-- The calls before a slave is chosen leave none. -/
theorem foldl_prelude (bus : UInt8) (file : Descriptor) (mask : UInt64) (address : UInt64) :
    (prelude bus file mask).foldl (keep file) address = 0 := by
  have hopened : keep file address ⟨.openFile (path bus), .ok file⟩ = 0 := by
    rw [keep, kept?, if_pos rfl]
    rfl
  rw [prelude, List.foldl_cons, List.foldl_cons, hopened]
  split <;> rfl

/-- A successful opening leaves the handle and the kernel with the slave that was asked for. -/
theorem Attempts.settled {bus : UInt8} {chosen : Option UInt16} {patience : Nat}
    {exchanges : List Exchange} {result : Except Error Device}
    (h : Attempts bus chosen patience exchanges result) {device : Device}
    (hresult : result = .ok device) (address : UInt64) :
    device.slave = chosen.getD 0 ∧
      exchanges.foldl (keep device.file) address = device.slave.toUInt64 := by
  induction h with
  | stands h _ =>
    cases h with
    | bare file mask =>
      cases hresult
      exact ⟨rfl, foldl_prelude bus file mask address⟩
    | bound file mask slave =>
      cases hresult
      refine ⟨rfl, ?_⟩
      rw [List.foldl_append, foldl_prelude]
      show (if file = file then some slave.toUInt64 else none).getD 0 = slave.toUInt64
      rw [if_pos rfl]
      rfl
    | _ => cases hresult
  | again _ ih => exact ih hresult

/-! ## What an operation makes of both -/

/-- Performing an operation runs it and wraps up its value. -/
theorem run_wrapped {α : Type} (f : α → Result) (program : Program α) (device : Device) :
    (f <$> program).run.run device =
      (fun ended => (ended.1.map f, ended.2)) <$> program.run.run device := by
  rw [ExceptT.run_map]
  rfl

/-- Choosing a slave is refused at once, or is one system call whose success chooses it. -/
theorem run_perform_selectSlave (address : UInt16) (device : Device) :
    (Operation.selectSlave address).perform.run.run device =
      if assignable address then
        .ask (.control device.file (.slave address.toUInt64)) fun
          | .ok () => .done (.ok .done, { device with slave := address })
          | .error errno => .done (.error (.io errno.failure), device)
      else .done (.error (.invalidSlaveAddress address), device) := by
  unfold Operation.perform
  rw [run_wrapped, run_selectSlave]
  split
  · refine congrArg (Dialogue.ask _) (funext fun answer => ?_)
    rcases answer with errno | ⟨⟨⟩⟩ <;> rfl
  · rfl

theorem run_perform_setTimeout (milliseconds : UInt32) (device : Device) :
    (Operation.setTimeout milliseconds).perform.run.run device =
      .ask (.control device.file (.timeout (milliseconds / 10).toUInt64)) fun answer =>
        .done ((checked answer).map fun _ => .done, device) := by
  unfold Operation.perform
  rw [run_wrapped, run_setTimeout]
  rfl

theorem run_perform_write (bytes : List UInt8) (device : Device) :
    (Operation.write bytes).perform.run.run device =
      .ask (.write device.file bytes) fun answer =>
        .done ((checked answer).map .taken, device) := by
  unfold Operation.perform
  rw [run_wrapped, run_write]
  rfl

/-- Whether a combined transfer is sent at all. -/
def Transferable (device : Device) (bytes : List UInt8) (length : Nat) : Prop :=
  device.capabilities.combined = true ∧ bytes.length ≤ maxLength ∧ length ≤ maxLength

theorem run_perform_writeRead {bytes : List UInt8} {length : Nat} {device : Device}
    (h : Transferable device bytes length) :
    (Operation.writeRead bytes length).perform.run.run device =
      .ask (.control device.file (.transfer
        [.outgoing device.slave (UInt16.ofNat bytes.length) bytes,
          .incoming device.slave (UInt16.ofNat length)])) fun answer =>
        .done ((checked answer).map fun data => .reading ⟨length, data⟩, device) := by
  unfold Operation.perform
  rw [run_wrapped, run_writeRead, if_pos h.1, if_pos h.2]
  refine congrArg (Dialogue.ask _) (funext fun answer => ?_)
  rcases answer with errno | data <;> rfl

theorem run_perform_writeRead_of_not {bytes : List UInt8} {length : Nat} {device : Device}
    (h : ¬ Transferable device bytes length) :
    ∃ error, (Operation.writeRead bytes length).perform.run.run device =
      .done (.error error, device) := by
  unfold Operation.perform
  rw [run_wrapped, run_writeRead]
  split
  · next hcombined =>
    rw [if_neg fun hlengths => h ⟨hcombined, hlengths⟩]
    exact ⟨_, rfl⟩
  · exact ⟨_, rfl⟩

/-- A dialogue that leaves a handle as it is, and is at most one system call that makes the kernel
keep no other address for its file. -/
inductive Steady (device : Device) :
    Dialogue SystemCall SystemCall.Answer (Except Error Result × Device) → Prop
  | refused (error : Error) : Steady device (.done (.error error, device))
  | asked (call : SystemCall) (result : call.Answer → Except Error Result)
    (h : ∀ answer, kept? device.file call answer = none) :
    Steady device (.ask call fun answer => .done (result answer, device))

/-- An operation is a choice of a slave, or it chooses none and is such a dialogue. -/
theorem selects_or_steady (operation : Operation) (device : Device) :
    (∃ address, operation = .selectSlave address) ∨
      (∀ result, chosen? (operation, result) = none) ∧
        Steady device (operation.perform.run.run device) := by
  cases operation with
  | selectSlave address => exact .inl ⟨address, rfl⟩
  | setTimeout milliseconds =>
    refine .inr ⟨fun _ => rfl, ?_⟩
    rw [run_perform_setTimeout]
    exact .asked _ _ fun _ => rfl
  | write bytes =>
    refine .inr ⟨fun _ => rfl, ?_⟩
    rw [run_perform_write]
    exact .asked _ _ fun _ => rfl
  | writeRead bytes length =>
    refine .inr ⟨fun _ => rfl, ?_⟩
    by_cases htransfer : Transferable device bytes length
    · rw [run_perform_writeRead htransfer]
      exact .asked _ _ fun _ => rfl
    · obtain ⟨error, herror⟩ := run_perform_writeRead_of_not htransfer
      rw [herror]
      exact .refused error

theorem Steady.run {device : Device}
    {dialogue : Dialogue SystemCall SystemCall.Answer (Except Error Result × Device)}
    (h : Steady device dialogue) (hkernel : KeepsSlaves kernel held) (state : σ) :
    (dialogue.run kernel state).value.2 = device ∧
      held (dialogue.run kernel state).state device.file = held state device.file := by
  cases h with
  | refused error => exact ⟨rfl, rfl⟩
  | asked call result hkeep =>
    refine ⟨rfl, (hkernel call state device.file).trans ?_⟩
    rw [hkeep]
    rfl

/-- The system call that chooses a slave. -/
abbrev slaveCall (device : Device) (address : UInt16) : SystemCall :=
  .control device.file (.slave address.toUInt64)

/-- What choosing a slave comes to. -/
inductive Choice (kernel : Responder SystemCall SystemCall.Answer σ)
    (held : σ → Descriptor → UInt64) (address : UInt16) (device : Device) (state : σ) :
    Outcome SystemCall SystemCall.Answer σ (Except Error Result × Device) → Prop
  /-- The address cannot be assigned, and the kernel is not asked. -/
  | rejected (h : ¬ (0x08 ≤ address.toNat ∧ address.toNat ≤ 0x77)) :
    Choice kernel held address device state
      ⟨(.error (.invalidSlaveAddress address), device), state, []⟩
  /-- The kernel denies it. -/
  | denied (h : 0x08 ≤ address.toNat ∧ address.toNat ≤ 0x77) {errno : Errno} {after : σ}
    (hanswer : kernel (slaveCall device address) state = (.error errno, after))
    (hheld : held after device.file = held state device.file) :
    Choice kernel held address device state
      ⟨(.error (.io errno.failure), device), after,
        [.answered (slaveCall device address) (.error errno)]⟩
  /-- The kernel makes it, and so does the handle. -/
  | made (h : 0x08 ≤ address.toNat ∧ address.toNat ≤ 0x77) {after : σ}
    (hanswer : kernel (slaveCall device address) state = (.ok (), after))
    (hheld : held after device.file = address.toUInt64) :
    Choice kernel held address device state
      ⟨(.ok .done, { device with slave := address }), after,
        [.answered (slaveCall device address) (.ok ())]⟩

theorem choice_attempt (hkernel : KeepsSlaves kernel held) (address : UInt16) (device : Device)
    (state : σ) :
    Choice kernel held address device state
      (attempt kernel (.selectSlave address) device state) := by
  have hheld := hkernel (slaveCall device address) state device.file
  unfold attempt
  rw [run_perform_selectSlave]
  by_cases hassignable : assignable address = true
  · have hrange := assignable_iff.1 hassignable
    rw [if_pos hassignable, Dialogue.run_ask]
    cases hanswer : kernel (slaveCall device address) state with
    | mk answer after =>
      rw [hanswer] at hheld
      rcases answer with errno | ⟨⟨⟩⟩
      · exact .denied hrange hanswer hheld
      · rw [kept?, if_pos rfl] at hheld
        exact .made hrange hanswer hheld
  · rw [if_neg hassignable]
    exact .rejected (mt assignable_iff.2 hassignable)

/-! ## The life of a handle -/

section

variable {history : History} {device : Device} {state : σ}

theorem History.last?_append (history : History) (entry : Operation × Except Error Result) :
    History.last? (history ++ [entry]) = (chosen? entry).or history.last? := by
  unfold History.last?
  rw [List.filterMap_append, List.getLast?_append]
  cases hchosen : chosen? entry with
  | none =>
    rw [List.filterMap_cons_none hchosen]
    rfl
  | some address =>
    rw [List.filterMap_cons_some hchosen]
    rfl

/-- An operation keeps handle and kernel together, and chooses what it says it has chosen. -/
theorem Settled.attempt (h : Settled held history device state) (hkernel : KeepsSlaves kernel held)
    (operation : Operation) :
    let outcome := Device.attempt kernel operation device state
    Settled held (history ++ [(operation, outcome.value.1)]) outcome.value.2 outcome.state := by
  intro outcome
  rcases selects_or_steady operation device with ⟨address, rfl⟩ | ⟨hnone, hsteady⟩
  · have hmade : Choice kernel held address device state outcome :=
      choice_attempt hkernel address device state
    have hkept {error : Error} :
        History.last? (history ++ [(.selectSlave address, .error error)]) = history.last? :=
      history.last?_append _
    clear_value outcome
    cases hmade with
    | rejected => exact ⟨hkept ▸ h.slave, h.held, hkept ▸ h.range⟩
    | denied _ _ hheld => exact ⟨hkept ▸ h.slave, hheld.trans h.held, hkept ▸ h.range⟩
    | made hrange _ hheld =>
      have hlast : History.last? (history ++ [(.selectSlave address, .ok .done)]) = some address :=
        history.last?_append _
      refine ⟨hlast ▸ rfl, hheld, fun other hother => ?_⟩
      cases hlast.symm.trans hother
      exact hrange
  · have hkept : History.last? (history ++ [(operation, outcome.value.1)]) = history.last? := by
      rw [History.last?_append, hnone]
      rfl
    obtain ⟨hdevice, hheld⟩ := hsteady.run hkernel state
    have hdevice : outcome.value.2 = device := hdevice
    have hheld : held outcome.state device.file = held state device.file := hheld
    rw [hdevice]
    exact ⟨hkept ▸ h.slave, hheld.trans h.held, hkept ▸ h.range⟩

/-- **Handle and kernel agree on the slave all along the life of a handle.** -/
theorem Life.settled (h : Life kernel held history device state)
    (hkernel : KeepsSlaves kernel held) : Settled held history device state := by
  induction h with
  | @opened bus patience state device h =>
    obtain ⟨hslave, hkept⟩ :=
      (attempts_openBus kernel bus patience state).settled h (held state device.file)
    exact ⟨hslave, (held_run hkernel device.file _ state).trans hkept,
      fun _ hnone => by cases hnone⟩
  | @bound bus pins patience state device h =>
    obtain ⟨hslave, hkept⟩ :=
      (attempts_openSlave kernel bus pins patience state).settled h (held state device.file)
    refine ⟨hslave, (held_run hkernel device.file _ state).trans hkept, fun address hlast => ?_⟩
    obtain rfl : pins.slaveAddress = address := Option.some.inj hlast
    have hrange := pins.slaveAddress_range
    omega
  | performed _ operation ih => exact ih.attempt hkernel operation
  | elsewhere _ after hheld ih => exact ⟨ih.slave, hheld.trans ih.held, ih.range⟩

end

/-! ## What goes to which slave -/

/-- What the operations on a handle do to the slave and with it, at some point of its life. -/
structure OneSlave (kernel : Responder SystemCall SystemCall.Answer σ)
    (held : σ → Descriptor → UInt64) (device : Device) (state : σ) : Prop where
  /-- A plain write is one system call, and goes to the slave of the handle. -/
  write : ∀ bytes, (attempt kernel (.write bytes) device state).calls.flatMap (slaves held state) =
    [device.slave.toUInt64]
  /-- So do both messages of a combined transfer, if it is sent. -/
  sent : ∀ bytes length, Transferable device bytes length →
    (attempt kernel (.writeRead bytes length) device state).calls.flatMap (slaves held state) =
      [device.slave.toUInt64, device.slave.toUInt64]
  /-- Otherwise there is no system call. -/
  unsent : ∀ bytes length, ¬ Transferable device bytes length →
    (attempt kernel (.writeRead bytes length) device state).calls = []
  /-- A choice succeeds exactly if the address can be assigned and the kernel makes it. -/
  chosen_iff : ∀ address,
    (attempt kernel (.selectSlave address) device state).value.1 = .ok .done ↔
      (0x08 ≤ address.toNat ∧ address.toNat ≤ 0x77) ∧
        (kernel (slaveCall device address) state).1 = .ok ()
  /-- A choice of an address that can be assigned is one system call. -/
  asked : ∀ address : UInt16, 0x08 ≤ address.toNat ∧ address.toNat ≤ 0x77 →
    (attempt kernel (.selectSlave address) device state).calls = [slaveCall device address]
  /-- A choice of any other address is refused without a system call. -/
  rejected : ∀ address, ¬ (0x08 ≤ address.toNat ∧ address.toNat ≤ 0x77) →
    attempt kernel (.selectSlave address) device state =
      ⟨(.error (.invalidSlaveAddress address), device), state, []⟩
  /-- An operation that fails, for whichever reason, leaves the handle and the kernel's address. -/
  failed : ∀ operation error, (attempt kernel operation device state).value.1 = .error error →
    (attempt kernel operation device state).value.2 = device ∧
      held (attempt kernel operation device state).state device.file = held state device.file

/-- **Wherever handle and kernel agree, everything goes to one slave.** -/
theorem oneSlave_of_held (hkernel : KeepsSlaves kernel held) {device : Device} {state : σ}
    (h : held state device.file = device.slave.toUInt64) : OneSlave kernel held device state where
  write bytes := by
    rw [attempt, run_perform_write]
    exact congrArg (fun address => [address]) h
  sent bytes length htransfer := by
    rw [attempt, run_perform_writeRead htransfer]
    rfl
  unsent bytes length hnot := by
    obtain ⟨error, herror⟩ := run_perform_writeRead_of_not hnot
    rw [attempt, herror]
    rfl
  chosen_iff address := by
    have hchoice := choice_attempt hkernel address device state
    generalize attempt kernel (.selectSlave address) device state = outcome at hchoice ⊢
    cases hchoice with
    | rejected hrange => exact ⟨nofun, fun h => absurd h.1 hrange⟩
    | denied _ hanswer =>
      rw [hanswer]
      exact ⟨nofun, nofun⟩
    | made hrange hanswer =>
      rw [hanswer]
      exact ⟨fun _ => ⟨hrange, rfl⟩, fun _ => rfl⟩
  asked address hrange := by
    have hchoice := choice_attempt hkernel address device state
    generalize attempt kernel (.selectSlave address) device state = outcome at hchoice ⊢
    cases hchoice with
    | rejected hnot => exact absurd hrange hnot
    | denied | made => rfl
  rejected address hrange := by
    have hchoice := choice_attempt hkernel address device state
    generalize attempt kernel (.selectSlave address) device state = outcome at hchoice ⊢
    cases hchoice with
    | rejected => rfl
    | denied h | made h => exact absurd h hrange
  failed operation error herror := by
    rcases selects_or_steady operation device with ⟨address, rfl⟩ | ⟨-, hsteady⟩
    · have hmade := choice_attempt hkernel address device state
      generalize attempt kernel (.selectSlave address) device state = outcome at hmade herror ⊢
      cases hmade with
      | rejected => exact ⟨rfl, rfl⟩
      | denied _ _ hheld => exact ⟨rfl, hheld⟩
      | made => cases herror
    · exact hsteady.run hkernel state

end WiperDriver.Linux.Device

namespace WiperDriver.Bench.World

open Linux (Descriptor SystemCall)
open Linux.Device (KeepsSlaves kept?)

/-! ## The kernel of the bench -/

/-- The slave that was chosen for an open file, and none for any other. -/
def slaveOf (world : World) (file : Descriptor) : UInt64 :=
  (world.files[file.number]?).elim 0 (·.slave)

/-- A combined transfer leaves the open files alone. -/
theorem files_transfer (world : World) (sent : List UInt8) (messages : List Linux.Message) :
    (world.transfer sent messages).2.files = world.files := by
  induction messages generalizing world sent with
  | nil => rfl
  | cons message rest ih =>
    rw [transfer.eq_def]
    simp only
    split
    · cases message with
      | outgoing address length bytes => exact ih _ _
      | incoming address length => exact ih _ _
    · rfl

theorem slaveOf_of_files {one other : World} (h : other.files = one.files) (file : Descriptor) :
    other.slaveOf file = one.slaveOf file := by
  rw [slaveOf, slaveOf, h]

/-- A file that has just been opened has no slave, and the others keep theirs. -/
theorem slaveOf_push {one other : World} {functions : UInt64}
    (h : other.files = one.files.push ⟨functions, 0⟩) (file : Descriptor) :
    other.slaveOf file =
      (if ⟨one.files.size⟩ = file then some 0 else none).getD (one.slaveOf file) := by
  unfold slaveOf
  rw [h, Array.getElem?_push]
  by_cases hnew : file.number = one.files.size
  · have hsame : (⟨one.files.size⟩ : Descriptor) = file := by rw [← hnew]
    rw [if_pos hnew, if_pos hsame]
    rfl
  · have hne : (⟨one.files.size⟩ : Descriptor) ≠ file :=
      fun heq => hnew (congrArg Descriptor.number heq).symm
    rw [if_neg hnew, if_neg hne]
    rfl

/-- A choice for an open file is kept for it, and the others keep theirs. -/
theorem slaveOf_setIfInBounds {one other : World} {chosen : Descriptor} {entry : OpenFile}
    (hentry : one.files[chosen.number]? = some entry) {argument : UInt64}
    (h : other.files = one.files.setIfInBounds chosen.number { entry with slave := argument })
    (file : Descriptor) :
    other.slaveOf file =
      (if chosen = file then some argument else none).getD (one.slaveOf file) := by
  obtain ⟨hbound, -⟩ := Array.getElem?_eq_some_iff.1 hentry
  unfold slaveOf
  rw [h]
  by_cases hsame : chosen = file
  · rw [if_pos hsame, ← hsame, Array.getElem?_setIfInBounds_self, if_pos hbound]
    rfl
  · have hne : chosen.number ≠ file.number :=
      fun heq => hsame (congrArg Descriptor.mk heq)
    rw [if_neg hsame, Array.getElem?_setIfInBounds_ne hne]
    rfl

/-- Writing a transaction down leaves the open files alone. -/
theorem files_of_attempt {world later : World} {line : String} {fault : Option Fault}
    (h : world.attempt line = (fault, later)) : later.files = world.files := by
  cases h
  rfl

/-- **The kernel of the bench keeps a slave for every open file.** -/
theorem keepsSlaves_respondKernel : KeepsSlaves respondKernel slaveOf := by
  intro call world file
  cases call with
  | openFile path =>
    rw [respondKernel]
    rcases hattempt : world.attempt (Transcript.openFile path) with ⟨_ | fault, later⟩
    · have hfiles := files_of_attempt hattempt
      simp only
      cases later.buses.find? fun bus => "/dev/i2c-" ++ bus.1 = path with
      | none => exact slaveOf_of_files hfiles file
      | some bus =>
        rw [← slaveOf_of_files hfiles file]
        exact slaveOf_push rfl file
    · exact slaveOf_of_files (files_of_attempt hattempt) file
  | control chosen request =>
    rw [respondKernel]
    cases hentry : world.files[chosen.number]? with
    | none =>
      cases request <;> rfl
    | some entry =>
      rcases hattempt : world.attempt (Transcript.request request) with ⟨_ | fault, later⟩
      · have hfiles := files_of_attempt hattempt
        rw [← slaveOf_of_files hfiles file]
        cases request with
        | slave argument => exact slaveOf_setIfInBounds (hfiles ▸ hentry) rfl file
        | transfer messages => exact slaveOf_of_files (files_transfer later [] messages) file
        | functions | tenBit argument | timeout argument => rfl
      · cases request <;> exact slaveOf_of_files (files_of_attempt hattempt) file
  | write chosen bytes =>
    refine slaveOf_of_files (?_ : (respondKernel (.write chosen bytes) world).2.files = _) file
    rw [respondKernel]
    cases world.files[chosen.number]? with
    | none => rfl
    | some entry =>
      simp only
      split
      · next later hattempt =>
        have hfiles := files_of_attempt hattempt
        split <;> exact hfiles
      · next later hattempt =>
        have hfiles := files_of_attempt hattempt
        split <;> exact hfiles

end WiperDriver.Bench.World

namespace WiperDriver.Linux.Device

open Bench (World)

variable {σ : Type} {kernel : Responder SystemCall SystemCall.Answer σ}
  {held : σ → Descriptor → UInt64}

/-! ## The result -/

/-- **A device talks to one slave.** With a kernel that keeps the address of a file until it is
changed, whichever calls fail:

* opening a bus, for a slave or for none, makes the calls it has to in their order, stops at the
  first that fails, and gives the error of that one, but for attempts to open the file that are
  interrupted, which are made again as long as there is patience (`Attempts`, `Opening`); the error
  number that comes up is that of the last call, and if there is one, one does;
* all along the life of a handle the kernel keeps the address that the handle keeps, which is the
  one chosen last and assignable, or zero before the first choice (`Settled`);
* at any point of it a write and both messages of a combined transfer go to that address, a choice
  succeeds exactly if it should, and whatever fails changes neither address (`OneSlave`). -/
theorem one_slave (hkernel : KeepsSlaves kernel held) :
    (∀ (bus : UInt8) (patience : Nat) (state : σ),
      let outcome := (openBus bus patience).run.run kernel state
      Attempts bus none patience outcome.exchanges outcome.value ∧
        ∀ errno : Errno, outcome.value = .error (.io errno.failure) ↔
          lastErrno? outcome.exchanges = some errno) ∧
    (∀ (bus : UInt8) (pins : Pins) (patience : Nat) (state : σ),
      let outcome := (openSlave bus pins patience).run.run kernel state
      Attempts bus (some pins.slaveAddress) patience outcome.exchanges outcome.value ∧
        ∀ errno : Errno, outcome.value = .error (.io errno.failure) ↔
          lastErrno? outcome.exchanges = some errno) ∧
    ∀ (history : History) (device : Device) (state : σ), Life kernel held history device state →
      Settled held history device state ∧ OneSlave kernel held device state := by
  refine ⟨fun bus patience state => ?_, fun bus pins patience state => ?_,
    fun history device state h => ?_⟩
  · have hattempts := attempts_openBus kernel bus patience state
    exact ⟨hattempts, hattempts.error_iff⟩
  · have hattempts := attempts_openSlave kernel bus pins patience state
    exact ⟨hattempts, hattempts.error_iff⟩
  · have hsettled := h.settled hkernel
    exact ⟨hsettled, oneSlave_of_held hkernel hsettled.held⟩

/-- A bus whose driver knows 10-bit addresses, and a fault that falls on the fifth call: the first
four open the bus for a slave, and the fifth, which is to choose another, changes nothing. -/
theorem one_slave_after_fault :
    let failure : Failure := ⟨.other, ""⟩
    let world : World :=
      { chip := ⟨.replicate 16 0, 256⟩, address := none, buses := [("1", 0x3)], files := #[],
        faults := [⟨4, some 1, failure, .other, ⟨5⟩, none⟩], transcript := #[] }
    let device : Device := ⟨1, ⟨0x3⟩, ⟨0⟩, 0x28⟩
    let opened := ((openSlave 1 ⟨false, false, false⟩ 0).run.run World.respondKernel world).state
    let later := attempt World.respondKernel (.selectSlave 0x50) device opened
    KeepsSlaves World.respondKernel World.slaveOf ∧
      later.calls = [slaveCall device 0x50] ∧ later.value.2 = device ∧
      later.state.slaveOf device.file = 0x28 := by
  intro failure world device opened later
  have hkernel := World.keepsSlaves_respondKernel
  have hfound : ((openSlave 1 ⟨false, false, false⟩ 0).run.run World.respondKernel
      world).value.toOption = some device := by
    decide +kernel
  have hopened : ((openSlave 1 ⟨false, false, false⟩ 0).run.run World.respondKernel world).value =
      .ok device := by
    revert hfound
    cases ((openSlave 1 ⟨false, false, false⟩ 0).run.run World.respondKernel world).value with
    | error error => exact nofun
    | ok found => exact fun hfound => congrArg _ (Option.some.inj hfound)
  obtain ⟨-, -, hlife⟩ := one_slave hkernel
  have hbound : Life World.respondKernel World.slaveOf _ device opened :=
    .bound 1 ⟨false, false, false⟩ 0 world hopened
  have hdevice : later.value.2 = device := by decide +kernel
  obtain ⟨-, hone⟩ := hlife _ _ _ hbound
  obtain ⟨hsettled, -⟩ := hlife _ _ _ (hbound.performed (.selectSlave 0x50))
  have hheld := hsettled.held
  rw [show (attempt World.respondKernel _ device opened).value.2 = device from hdevice] at hheld
  exact ⟨hkernel, hone.asked 0x50 (by decide), hdevice, hheld⟩

/-- **Opening a bus does not stop at every call that fails**: where a signal interrupts the first
attempt to open the file, there are three calls, and the bus is open. -/
theorem not_opening_of_interrupted :
    ¬ ∀ (bus : UInt8) (patience : Nat) (world : World),
      let outcome := (openBus bus patience).run.run World.respondKernel world
      Opening bus none outcome.exchanges outcome.value := by
  intro hopening
  let failure : Failure := ⟨.other, ""⟩
  let world : World :=
    { chip := ⟨.replicate 16 0, 256⟩, address := none, buses := [("1", 0x1)], files := #[],
      faults := [⟨0, some 1, failure, .other, .interrupted, none⟩], transcript := #[] }
  have hcalls := (hopening 1 1 world).opens_once
  rw [← Outcome.calls_eq] at hcalls
  revert hcalls
  decide +kernel

end WiperDriver.Linux.Device
