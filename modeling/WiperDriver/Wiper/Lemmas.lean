import WiperDriver.Registers.Lemmas
import WiperDriver.Wiper

/-!
# What wiper operations do to the wiper

Each operation of `Wiper`, started from a wiper, as register operations and what their results leave
behind. In every equation the wiper of a failing course is the one it started from; the equations of
`update`, `moveTo`, `step` and `setMode` are the only ones in which another wiper occurs.
-/

namespace WiperDriver.Wiper

variable {α β : Type}

@[simp]
theorem run_get (next : Wiper → Program β) (wiper : Wiper) :
    (get >>= next).run.run wiper = (next wiper).run.run wiper :=
  rfl

@[simp]
theorem run_set (after wiper : Wiper) :
    (set after : Program PUnit).run.run wiper = .done (.ok ⟨⟩, after) :=
  rfl

@[simp]
theorem run_pure (value : α) (wiper : Wiper) :
    (pure value : Program α).run.run wiper = .done (.ok value, wiper) :=
  rfl

@[simp]
theorem run_throw (error : Error) (wiper : Wiper) :
    (throw error : Program α).run.run wiper = .done (.error error, wiper) :=
  rfl

@[simp]
theorem run_access (program : Registers.Program α) (wiper : Wiper) :
    (access program).run.run wiper = program.run >>= fun result => .done (result, wiper) :=
  rfl

/-- An access to the registers and what follows it. -/
theorem run_access_bind (program : Registers.Program α) (next : α → Program β) (wiper : Wiper) :
    (access program >>= next).run.run wiper = program.run >>= fun
      | .ok value => (next value).run.run wiper
      | .error error => .done (.error error, wiper) := by
  show (program.run >>= fun result => .done (result, wiper)) >>= _ = _
  rw [Dialogue.bind_assoc]
  congr 1
  funext result
  cases result <;> rfl

/-- A check and what follows it. -/
theorem run_check_bind (checked : Except Error α) (next : α → Program β) (wiper : Wiper) :
    ((liftM checked : Program α) >>= next).run.run wiper =
      match checked with
      | .ok value => (next value).run.run wiper
      | .error error => .done (.error error, wiper) := by
  cases checked <;> rfl

/-! ## Taking control -/

/-- Taking control is refused, or asks for one transaction: a read of the position on a chip with
EEPROM, a write of the initial position on any other. -/
theorem run_start (model : Model) (channel : Channel) (mode : Mode) (initial : Int32) :
    (start model channel mode initial).run =
      match model.checkChannel channel with
      | .error error => .done (.error error)
      | .ok _ =>
        match model.checkMode mode with
        | .error error => .done (.error error)
        | .ok _ =>
          let wiper : Wiper := { model, channel, mode, position := 0 }
          let begun (wiper : Wiper) : Dialogue Bus.Call Bus.Answer (Except Error Wiper) :=
            .say (.initialized model channel wiper.position mode) (.done (.ok wiper))
          if model.hasEeprom then
            (Registers.value channel false).run >>= fun
              | .ok value => begun (wiper.withReading value)
              | .error error => .done (.error error)
          else
            (Registers.setValue channel (wiper.clamp initial) false).run >>= fun
              | .ok _ => begun { wiper with position := wiper.clamp initial }
              | .error error => .done (.error error) := by
  unfold start
  rw [ExceptT.run_bind, Registers.run_liftM]
  cases model.checkChannel channel with
  | error error => rfl
  | ok _ =>
    simp only [Dialogue.done_bind]
    rw [ExceptT.run_bind, Registers.run_liftM]
    cases model.checkMode mode with
    | error error => rfl
    | ok _ =>
      simp only [Dialogue.done_bind]
      split <;>
      · rw [ExceptT.run_bind]
        congr 1
        funext result
        cases result <;> rfl

/-! ## Operations that change the wiper -/

/-- Reading the position keeps what was read, bent into range. -/
theorem run_update (wiper : Wiper) :
    update.run.run wiper = (Registers.value wiper.channel false).run >>= fun
      | .ok value =>
        .done (.ok (wiper.withReading value).position, wiper.withReading value)
      | .error error => .done (.error error, wiper) := by
  unfold update
  rw [run_get, run_access_bind]
  congr 1
  funext result
  cases result <;> rfl

/-- A move keeps the new position once every write to the volatile register, and every write after
it, has succeeded. -/
theorem run_moveTo (value : Int32) (wiper : Wiper) :
    (moveTo value).run.run wiper =
      match wiper.mode with
      | .volatileOnly =>
        (Registers.setValue wiper.channel (wiper.clamp value) false).run >>= fun
          | .ok () => .done (.ok (), { wiper with position := wiper.clamp value })
          | .error error => .done (.error error, wiper)
      | .nonVolatileOnly =>
        (Registers.setValue wiper.channel (wiper.clamp value) true).run >>= fun result =>
          .done (result, wiper)
      | .volatileAndNonVolatile =>
        (Registers.setValue wiper.channel (wiper.clamp value) false).run >>= fun
          | .ok () =>
            (Registers.setValue wiper.channel (wiper.clamp value) true).run >>= fun
              | .ok () => .done (.ok (), { wiper with position := wiper.clamp value })
              | .error error => .done (.error error, wiper)
          | .error error => .done (.error error, wiper) := by
  unfold moveTo
  rw [run_get]
  cases h : wiper.mode with
  | volatileOnly =>
    simp only
    rw [run_access_bind]
    congr 1
    funext result
    cases result <;> rfl
  | nonVolatileOnly => rfl
  | volatileAndNonVolatile =>
    simp only
    rw [run_access_bind]
    congr 1
    funext result
    cases result with
    | error error => rfl
    | ok value =>
      simp only
      rw [run_access_bind]
      congr 1
      funext result
      cases result <;> rfl

/-- A step is refused, or is nothing, or is a move to the new position, or is a burst. -/
theorem run_step (direction : Direction) (steps : UInt32) (wiper : Wiper) :
    (step direction steps).run.run wiper =
      if wiper.mode ≠ .volatileOnly then .done (.error .volatileOnly, wiper)
      else if steps = 0 ∨ wiper.room direction = 0 then .done (.ok (), wiper)
      else
        let count := (min steps (wiper.room direction).toUInt32).toUInt16
        let position := wiper.moved direction count
        if position = wiper.limit direction ∨ steps > maxBurst then
          .say (.writingStep wiper.channel position steps)
            ((moveTo (Int32.ofNat position.toNat)).run.run wiper)
        else
          .say (.stepping wiper.channel count position) <|
            (Registers.pulse wiper.channel.volatileAddress direction
              (Int32.ofNat count.toNat)).run >>= fun
              | .ok () => .done (.ok (), { wiper with position })
              | .error error => .done (.error error, wiper) := by
  unfold step
  rw [run_get]
  split
  · rfl
  · split
    · rfl
    · simp only
      split
      · rw [run_access_bind]
        rfl
      · rw [run_access_bind]
        cases direction <;>
        · simp only [Registers.run_report, Dialogue.say_bind, Dialogue.done_bind]
          rw [run_access_bind]
          congr 2
          funext result
          cases result <;> rfl

/-- Changing the mode asks nothing of the chip. -/
theorem run_setMode (mode : Mode) (wiper : Wiper) :
    (setMode mode).run.run wiper =
      match wiper.model.checkMode mode with
      | .ok () => .done (.ok (), { wiper with mode })
      | .error error => .done (.error error, wiper) := by
  unfold setMode
  rw [run_get, run_check_bind]
  cases wiper.model.checkMode mode <;> rfl

/-! ## Operations that leave the wiper alone -/

theorem run_nonVolatileValue (wiper : Wiper) :
    nonVolatileValue.run.run wiper =
      match wiper.model.checkEeprom with
      | .ok () => (Registers.value wiper.channel true).run >>= fun result => .done (result, wiper)
      | .error error => .done (.error error, wiper) := by
  unfold nonVolatileValue
  rw [run_get, run_check_bind]
  cases wiper.model.checkEeprom <;> rfl

theorem run_status (wiper : Wiper) :
    status.run.run wiper = Registers.status.run >>= fun result =>
      .done (result.map (·.forChannel wiper.channel), wiper) := by
  unfold status
  rw [run_get, run_access_bind]
  congr 1
  funext result
  cases result <;> rfl

theorem run_terminals (wiper : Wiper) :
    terminals.run.run wiper =
      (Registers.terminals wiper.channel).run >>= fun result => .done (result, wiper) :=
  rfl

theorem run_setTerminals (setting : Terminals) (wiper : Wiper) :
    (setTerminals setting).run.run wiper =
      if setting.channel = wiper.channel then
        (Registers.setTerminals setting).run >>= fun result => .done (result, wiper)
      else .done (.error (.channelMismatch wiper.channel setting.channel), wiper) := by
  unfold setTerminals
  rw [run_get]
  split <;> rfl

theorem run_setLock (locked : Bool) (wiper : Wiper) :
    (setLock locked).run.run wiper =
      match wiper.model.checkEeprom with
      | .ok () =>
        (Registers.setLock wiper.channel locked).run >>= fun result => .done (result, wiper)
      | .error error => .done (.error error, wiper) := by
  unfold setLock
  rw [run_get, run_check_bind]
  cases wiper.model.checkEeprom <;> rfl

theorem run_setProtection (enabled : Bool) (wiper : Wiper) :
    (setProtection enabled).run.run wiper =
      match wiper.model.checkEeprom with
      | .ok () => (Registers.setProtection enabled).run >>= fun result => .done (result, wiper)
      | .error error => .done (.error error, wiper) := by
  unfold setProtection
  rw [run_get, run_check_bind]
  cases wiper.model.checkEeprom <;> rfl

end WiperDriver.Wiper
