import WiperDriver.Linux.Device

/-!
# What device operations ask of the kernel

Each operation on a handle as the tree of its courses: which system call it makes and what every
answer leaves of the handle. `run_selectSlave` is the only equation in which another handle occurs,
and none has a second system call. Opening makes several, each after the one before it succeeded
(`run_openBus`, `run_openSlave`), and only its first one may be repeated (`run_openFile_succ`).
-/

namespace WiperDriver.Linux.Device

variable {α β : Type}

@[simp]
theorem checked_ok (value : α) : checked (.ok value : Except Errno α) = .ok value :=
  rfl

@[simp]
theorem checked_error (errno : Errno) :
    checked (.error errno : Except Errno α) = .error (.io errno.failure) :=
  rfl

@[simp]
theorem run_control (file : Descriptor) (request : Request) :
    (control file request).run =
      .ask (.control file request) fun answer => .done (checked answer) :=
  rfl

@[simp]
theorem run_writeFile (file : Descriptor) (bytes : List UInt8) :
    (writeFile file bytes).run = .ask (.write file bytes) fun answer => .done (checked answer) :=
  rfl

/-! ## Operations on a handle -/

@[simp]
theorem run_get (next : Device → Program β) (device : Device) :
    (get >>= next).run.run device = (next device).run.run device :=
  rfl

/-- Choosing a slave is refused without a system call, or makes one and keeps the address only if it
succeeds. -/
theorem run_selectSlave (address : UInt16) (device : Device) :
    (selectSlave address).run.run device =
      if assignable address then
        .ask (.control device.file (.slave address.toUInt64)) fun
          | .ok () => .done (.ok (), { device with slave := address })
          | .error errno => .done (.error (.io errno.failure), device)
      else .done (.error (.invalidSlaveAddress address), device) := by
  unfold selectSlave
  split
  · show Dialogue.ask _ _ = _
    congr 1
    funext answer
    rcases answer with _ | ⟨⟨⟩⟩ <;> rfl
  · rfl

theorem run_setTimeout (milliseconds : UInt32) (device : Device) :
    (setTimeout milliseconds).run.run device =
      .ask (.control device.file (.timeout (milliseconds / 10).toUInt64)) fun answer =>
        .done (checked answer, device) :=
  rfl

theorem run_write (bytes : List UInt8) (device : Device) :
    (write bytes).run.run device =
      .ask (.write device.file bytes) fun answer => .done (checked answer, device) :=
  rfl

/-- A combined transfer is refused without a system call, or makes one with two messages whose
lengths are those asked for. -/
theorem run_writeRead (bytes : List UInt8) (length : Nat) (device : Device) :
    (writeRead bytes length).run.run device =
      if device.capabilities.combined then
        if bytes.length ≤ maxLength ∧ length ≤ maxLength then
          .ask (.control device.file (.transfer
            [.outgoing device.slave (UInt16.ofNat bytes.length) bytes,
              .incoming device.slave (UInt16.ofNat length)])) fun answer =>
            .done ((checked answer).map (⟨length, ·⟩), device)
        else .done (.error (.io tooLong), device)
      else .done (.error .featureNotSupported, device) := by
  unfold writeRead
  rw [run_get]
  split
  · split
    · show Dialogue.ask _ _ = _
      congr 1
      funext answer
      rcases answer with _ | _ <;> rfl
    · rfl
  · rfl

/-! ## Carrying out what the driver asks -/

/-- A sending transaction is one write, which has to be taken whole. -/
theorem adapter_write (device : Device) (bytes : List UInt8) :
    device.adapter (.write bytes) =
      .ask (.write device.file bytes) fun
        | .ok taken =>
          .done (if taken = bytes.length then .ok () else .error (shortWrite taken bytes.length))
        | .error errno => .done (.error errno.failure) := by
  simp only [adapter]
  rw [run_write, Dialogue.ask_bind]
  congr 1
  funext answer
  cases answer with
  | error errno => rfl
  | ok taken =>
    simp only [checked_ok, Dialogue.done_bind]
    split <;> rfl

/-- A receiving transaction is one combined transfer with the chosen slave. -/
theorem adapter_writeRead (device : Device) (bytes : List UInt8) (length : Nat) :
    device.adapter (.writeRead bytes length) =
      (writeRead bytes length).run.run device >>= fun result =>
        .done (result.1.mapError Error.failure) :=
  rfl

/-! ## Opening -/

/-- Without patience the first answer stands. -/
theorem run_openFile_zero (path : String) :
    (openFile path 0).run = .ask (.openFile path) fun answer => .done (checked answer) :=
  rfl

/-- With patience an interrupted attempt is followed by another one. -/
theorem run_openFile_succ (path : String) (patience : Nat) :
    (openFile path (patience + 1)).run =
      .ask (.openFile path) fun
        | .ok file => .done (.ok file)
        | .error errno =>
          if errno = .interrupted then (openFile path patience).run
          else .done (.error (.io errno.failure)) :=
  rfl

/-- Opening a bus opens its file, asks for its function mask, and then asks for 7-bit addresses if
the mask shows others. -/
theorem run_openBus (bus : UInt8) (patience : Nat) :
    (openBus bus patience).run =
      (openFile (path bus) patience).run >>= fun
        | .error error => .done (.error error)
        | .ok file => .ask (.control file .functions) fun
          | .error errno => .done (.error (.io errno.failure))
          | .ok mask =>
            let device : Device := { bus, capabilities := ⟨mask⟩, file, slave := 0 }
            if device.capabilities.tenBit then
              .ask (.control file (.tenBit 0)) fun answer =>
                .done ((checked answer).map fun _ => device)
            else .done (.ok device) := by
  unfold openBus
  rw [ExceptT.run_bind]
  congr 1
  funext opened
  cases opened with
  | error error => rfl
  | ok file =>
    simp only
    rw [ExceptT.run_bind, run_control file .functions]
    simp only [Dialogue.ask_bind, Dialogue.done_bind]
    congr 1
    funext answer
    cases answer with
    | error errno => rfl
    | ok mask =>
      simp only [checked_ok]
      split
      · rw [ExceptT.run_bind, run_control file (.tenBit 0)]
        simp only [Dialogue.ask_bind, Dialogue.done_bind]
        congr 1
        funext answer
        cases answer <;> rfl
      · rfl

/-- Opening a bus for a slave is opening the bus and then choosing the slave. -/
theorem run_openSlave (bus : UInt8) (pins : Pins) (patience : Nat) :
    (openSlave bus pins patience).run = (openBus bus patience).run >>= fun
      | .error error => .done (.error error)
      | .ok device => (selectSlave pins.slaveAddress).run.run device >>= fun
        | (.ok (), device) => .done (.ok device)
        | (.error error, _) => .done (.error error) := by
  unfold openSlave
  rw [ExceptT.run_bind]
  congr 1
  funext opened
  rcases opened with _ | device
  · rfl
  · simp only [ExceptT.run_bind, ExceptT.run_lift, bind_map_left]
    congr 1
    funext chosen
    rcases chosen with ⟨_ | ⟨⟨⟩⟩, device⟩ <;> rfl

end WiperDriver.Linux.Device
