import WiperDriver.Registers

/-!
# What register operations say and ask

Each operation of `Registers` as the tree of its courses: which line it reports, which transaction
it asks for, and what it makes of every answer. `run_read`, `run_write` and `run_pulse` are the three
that touch the bus; all others are one or two of these in a row.
-/

namespace WiperDriver.Registers

@[simp]
theorem run_send (bytes : List UInt8) :
    (send bytes).run = .ask (.write bytes) fun answer => .done (answer.mapError .io) :=
  rfl

@[simp]
theorem run_fetch (bytes : List UInt8) (length : Nat) :
    (fetch bytes length).run =
      .ask (.writeRead bytes length) fun answer => .done (answer.mapError .io) :=
  rfl

@[simp]
theorem run_report (line : Log.Line) : (report line).run = .say line (.done (.ok ())) :=
  rfl

@[simp]
theorem run_liftM {α : Type} (checked : Except Error α) :
    (liftM checked : Program α).run = .done checked := by
  cases checked <;> rfl

/-- The 16-bit word of a reading, its first byte on top. -/
def word (reading : Bus.Reading) : UInt16 :=
  ((reading.byte 0).toUInt16 <<< 8) ||| (reading.byte 1).toUInt16

/-- Reading asks for one transaction and reports a word only if both its bytes came. -/
theorem run_read (address : UInt8) :
    (read address).run =
      match Command.encode address .read with
      | .error error => .done (.error error)
      | .ok command => .ask (.writeRead [command] 2) fun
        | .error failure => .done (.error (.io failure))
        | .ok reading =>
          if reading.count = 2 then .say (.read address (word reading)) (.done (.ok (word reading)))
          else .done (.error (.unexpectedByteCount 2 reading.count)) := by
  simp only [read, ExceptT.run_bind, run_liftM, Dialogue.done_bind]
  cases Command.encode address .read with
  | error error => rfl
  | ok command =>
    simp only [run_fetch, Dialogue.ask_bind, Dialogue.done_bind]
    congr 1
    funext answer
    cases answer with
    | error failure => rfl
    | ok reading =>
      have hanswer : Except.mapError Error.io (.ok reading) = .ok reading := rfl
      by_cases h : reading.count = 2 <;> simp [hanswer, Except.map, wordLength, word, h]

/-- Writing reports first and asks for one transaction of two bytes. -/
theorem run_write (address : UInt8) (value : UInt16) :
    (write address value).run =
      if value ≤ maxWord then
        match Command.encode address .write with
        | .error error => .done (.error error)
        | .ok command =>
          .say (.write address value) <|
            .ask (.write [command ||| (value >>> 8).toUInt8, value.toUInt8]) fun answer =>
              .done (answer.mapError .io)
      else .done (.error (.valueOutOfRange value)) := by
  unfold write
  by_cases h : value ≤ maxWord
  · simp only [h, if_true, ExceptT.run_bind, run_liftM, Dialogue.done_bind]
    cases Command.encode address .write <;> simp
  · simp [h]

/-- A burst reports first and asks for one transaction of as many command bytes as pulses. -/
theorem run_pulse (address : UInt8) (direction : Direction) (steps : Int32) :
    (pulse address direction steps).run =
      if steps = 0 then .done (.ok ())
      else if steps.toInt.natAbs ≤ maxBurst then
        let direction := if steps < 0 then direction.reverse else direction
        match Command.encode address (.ofDirection direction) with
        | .error error => .done (.error error)
        | .ok command =>
          .say (.pulse direction address steps.toInt.natAbs) <|
            .ask (.write (List.replicate steps.toInt.natAbs command)) fun answer =>
              .done (answer.mapError .io)
      else .done (.error (.stepsOutOfRange steps)) := by
  unfold pulse
  by_cases h : steps = 0
  · simp [h]
  · by_cases hb : steps.toInt.natAbs ≤ maxBurst
    · simp only [h, hb, if_true, if_false, ExceptT.run_bind, run_liftM, Dialogue.done_bind]
      cases Command.encode address (.ofDirection (if steps < 0 then direction.reverse else direction))
        <;> simp
    · simp [h, hb]

/-- Reading the status is a read whose word may be refused, with a warning. -/
theorem run_status :
    status.run = (read statusAddress).run >>= fun
      | .error error => .done (.error error)
      | .ok word =>
        match Status.ofWord word with
        | .ok found => .done (.ok found)
        | .error error => .say (.unexpectedStatus word) (.done (.error error)) := by
  simp only [status, ExceptT.run_bind]
  congr 1
  funext result
  cases result with
  | error error => rfl
  | ok word =>
    simp only
    cases Status.ofWord word <;> rfl

/-- Reading a terminal setting is a read of the channel's register. -/
theorem run_terminals (channel : Channel) :
    (terminals channel).run =
      (fun result => result.map (Terminals.ofWord channel)) <$>
        (read channel.terminalAddress).run := by
  simp [terminals]

/-- Changing a terminal setting is a read and, only if that succeeded, a write. -/
theorem run_setTerminals (setting : Terminals) :
    (setTerminals setting).run = (read setting.channel.terminalAddress).run >>= fun
      | .error error => .done (.error error)
      | .ok word => (write setting.channel.terminalAddress (setting.applyTo word)).run := by
  simp only [setTerminals, ExceptT.run_bind]
  congr 1
  funext result
  cases result <;> rfl

end WiperDriver.Registers
