import WiperDriver.Proofs.Chip.Conversation
import WiperDriver.Wiper.Lemmas
import WiperDriver.Wiper.Operation

/-!
# Wiper operations on a chip

What each wiper operation gives, which wiper it leaves and which chip, on a bus that never fails.
`converse_moveTo` and `converse_step` are the two with a choice in them; every other operation is
one register operation after a check. Only the volatile and the EEPROM register of the wiper's
channel, its terminal control register and STATUS occur on the right-hand sides, which is what the
results on several wipers of one chip rest on.
-/

namespace WiperDriver.Wiper

variable {α β : Type}

/-! ## Positions -/

/-- The known position is one that the chip has. -/
def InRange (wiper : Wiper) : Prop :=
  wiper.position ≤ wiper.model.maxValue

instance (wiper : Wiper) : Decidable wiper.InRange :=
  inferInstanceAs (Decidable (wiper.position ≤ wiper.model.maxValue))

theorem maxValue_le_maxWord (model : Model) : model.maxValue ≤ Registers.maxWord :=
  UInt16.le_iff_toNat_le.2 (Nat.le_trans model.maxValue_le (by decide))

/-- A target is clamped in the integers. -/
theorem toNat_clamp (wiper : Wiper) (target : Int32) :
    (wiper.clamp target).toNat = min target.toInt.toNat wiper.model.maxValue.toNat := by
  have := wiper.model.maxValue.toNat_lt
  rw [clamp, UInt16.toNat_ofNat', Nat.mod_eq_of_lt (by omega)]

theorem clamp_le (wiper : Wiper) (target : Int32) :
    wiper.clamp target ≤ wiper.model.maxValue := by
  rw [UInt16.le_iff_toNat_le, toNat_clamp]
  exact Nat.min_le_right _ _

theorem clamp_le_maxWord (wiper : Wiper) (target : Int32) :
    wiper.clamp target ≤ Registers.maxWord :=
  UInt16.le_trans (wiper.clamp_le target) (maxValue_le_maxWord wiper.model)

/-- A 16-bit number keeps its value as a 32-bit one with a sign. -/
theorem toInt_ofNat_toNat (value : UInt16) : (Int32.ofNat value.toNat).toInt = value.toNat := by
  have := value.toNat_lt
  exact Int32.toInt_ofNat_of_lt (by omega)

/-- A position of the chip is its own clamped value. -/
theorem clamp_ofNat {wiper : Wiper} {position : UInt16} (h : position ≤ wiper.model.maxValue) :
    wiper.clamp (Int32.ofNat position.toNat) = position := by
  have hle := UInt16.le_iff_toNat_le.1 h
  apply UInt16.toNat_inj.1
  rw [toNat_clamp, toInt_ofNat_toNat, Int.toNat_natCast]
  exact Nat.min_eq_left hle

/-- A position read from the chip counts as the highest one if it is above it. -/
theorem toNat_withReading (wiper : Wiper) (value : UInt16) :
    (wiper.withReading value).position.toNat = min value.toNat wiper.model.maxValue.toNat := by
  show (if _ then _ else _ : UInt16).toNat = _
  split <;> rename_i h <;> rw [UInt16.le_iff_toNat_le] at h <;> omega

/-- A position of the model is kept as it is read. -/
theorem withReading_of_le {wiper : Wiper} {value : UInt16} (h : value ≤ wiper.model.maxValue) :
    wiper.withReading value = { wiper with position := value } := by
  have hmin : min value wiper.model.maxValue = value := if_pos h
  rw [withReading, hmin]

/-! ## Room to move -/

theorem toNat_room_up {wiper : Wiper} (h : wiper.InRange) :
    (wiper.room .up).toNat = wiper.model.maxValue.toNat - wiper.position.toNat :=
  UInt16.toNat_sub_of_le _ _ h

/-- As long as there is room, steps up add up. -/
theorem toNat_moved_up {wiper : Wiper} (h : wiper.InRange) {count : UInt16}
    (hcount : count ≤ wiper.room .up) :
    (wiper.moved .up count).toNat = wiper.position.toNat + count.toNat := by
  have hroom := toNat_room_up h
  have := UInt16.le_iff_toNat_le.1 hcount
  have := wiper.model.maxValue.toNat_lt
  have := UInt16.le_iff_toNat_le.1 h
  rw [moved, UInt16.toNat_add, Nat.mod_eq_of_lt (by omega)]

/-- As long as there is room, steps down are taken off. -/
theorem toNat_moved_down {wiper : Wiper} {count : UInt16} (hcount : count ≤ wiper.room .down) :
    (wiper.moved .down count).toNat = wiper.position.toNat - count.toNat :=
  UInt16.toNat_sub_of_le _ _ hcount

/-! ## Taking control -/

/-- Taking control of a wiper on a chip with EEPROM reads its position and changes nothing; on any
other chip it sets the position. -/
theorem converse_start (chip : Chip) (model : Model) (channel : Channel) (mode : Mode)
    (initial : Int32) :
    chip.converse (start model channel mode initial).run =
      match model.checkChannel channel, model.checkMode mode with
      | .error error, _ => (.error error, chip)
      | .ok _, .error error => (.error error, chip)
      | .ok _, .ok _ =>
        let wiper : Wiper := { model, channel, mode, position := 0 }
        if model.hasEeprom then
          (.ok (wiper.withReading (chip.register channel.volatileSlot)), chip)
        else
          (.ok { wiper with position := wiper.clamp initial },
            chip.setRegister channel.volatileSlot (wiper.clamp initial)) := by
  rw [run_start]
  cases model.checkChannel channel with
  | error error => rfl
  | ok _ =>
    cases model.checkMode mode with
    | error error => rfl
    | ok _ =>
      simp only
      split
      · rw [Chip.converse_bind, Registers.converse_volatileValue]
        rfl
      · rw [Chip.converse_bind, Registers.converse_setVolatileValue (clamp_le_maxWord _ _)]
        rfl

/-! ## Operations that change the wiper -/

/-- Reading the position keeps what was read, bent into range. -/
theorem converse_update (chip : Chip) (wiper : Wiper) :
    chip.converse (update.run.run wiper) =
      let found := wiper.withReading (chip.register wiper.channel.volatileSlot)
      ((.ok found.position, found), chip) := by
  rw [run_update, Chip.converse_bind, Registers.converse_volatileValue]
  rfl

/-- A move writes the registers that the mode names, and keeps the position if the volatile one is
among them. -/
theorem converse_moveTo (chip : Chip) (target : Int32) (wiper : Wiper) :
    chip.converse ((moveTo target).run.run wiper) =
      let position := wiper.clamp target
      match wiper.mode with
      | .volatileOnly =>
        ((.ok (), { wiper with position }), chip.setRegister wiper.channel.volatileSlot position)
      | .nonVolatileOnly =>
        ((.ok (), wiper), chip.setRegister wiper.channel.nonVolatileSlot position)
      | .volatileAndNonVolatile =>
        ((.ok (), { wiper with position }),
          (chip.setRegister wiper.channel.volatileSlot position).setRegister
            wiper.channel.nonVolatileSlot position) := by
  have hfits := wiper.clamp_le_maxWord target
  rw [run_moveTo]
  cases wiper.mode with
  | volatileOnly =>
    simp only
    rw [Chip.converse_bind, Registers.converse_setVolatileValue hfits]
    rfl
  | nonVolatileOnly =>
    simp only
    rw [Chip.converse_bind, Registers.converse_setNonVolatileValue hfits]
    rfl
  | volatileAndNonVolatile =>
    simp only
    rw [Chip.converse_bind, Registers.converse_setVolatileValue hfits]
    simp only
    rw [Chip.converse_bind, Registers.converse_setNonVolatileValue hfits]
    rfl

/-- How many positions a step can move the wiper: as many as asked for, or all that are left. -/
def reach (wiper : Wiper) (direction : Direction) (steps : UInt32) : UInt16 :=
  (min steps (wiper.room direction).toUInt32).toUInt16

@[simp] theorem toNat_reach (wiper : Wiper) (direction : Direction) (steps : UInt32) :
    (wiper.reach direction steps).toNat = min steps.toNat (wiper.room direction).toNat := by
  have hlt := (wiper.room direction).toNat_lt
  have hmin : (min steps (wiper.room direction).toUInt32).toNat =
      min steps.toNat (wiper.room direction).toNat := by
    rw [← UInt16.toNat_toUInt32 (wiper.room direction)]
    show (if _ then _ else _ : UInt32).toNat = _
    split <;> rename_i h <;> rw [UInt32.le_iff_toNat_le] at h <;> omega
  rw [reach, UInt32.toNat_toUInt16, hmin]
  omega

theorem reach_le_room (wiper : Wiper) (direction : Direction) (steps : UInt32) :
    wiper.reach direction steps ≤ wiper.room direction := by
  rw [UInt16.le_iff_toNat_le, toNat_reach]
  exact Nat.min_le_right _ _

/-- A burst at the volatile register moves it. -/
theorem converse_pulse_volatile {count : UInt16} (hpos : 0 < count.toNat)
    (hle : count.toNat ≤ Registers.maxBurst) (chip : Chip) (channel : Channel)
    (direction : Direction) :
    chip.converse
        (Registers.pulse channel.volatileAddress direction (Int32.ofNat count.toNat)).run =
      (.ok (), chip.setRegister channel.volatileSlot
        (Chip.swept chip.limit (chip.register channel.volatileSlot) count.toNat direction)) := by
  have hint := toInt_ofNat_toNat count
  have hne : Int32.ofNat count.toNat ≠ 0 := by
    intro h
    have hzero : ((count.toNat : Nat) : Int) = 0 := by
      rw [← hint, h]
      rfl
    omega
  have hforward : Registers.heading direction (Int32.ofNat count.toNat) = direction := by
    rw [Registers.heading, if_neg]
    rw [Int32.lt_iff_toInt_lt, hint]
    exact Int.not_lt.2 (Int.natCast_nonneg _)
  rw [Registers.converse_pulse, if_neg hne, hint, Int.natAbs_natCast, if_pos hle,
    if_pos channel.volatileAddress_le, hforward]
  exact congrArg (Prod.mk _) (Chip.burst_of_none channel.flag?_volatileSlot chip direction _)

/-- A step that moves is a write of the new position, or a burst of pulses. -/
theorem converse_step (chip : Chip) (direction : Direction) (steps : UInt32) (wiper : Wiper) :
    chip.converse ((step direction steps).run.run wiper) =
      let slot := wiper.channel.volatileSlot
      let position := wiper.moved direction (wiper.reach direction steps)
      if wiper.mode ≠ .volatileOnly then ((.error .volatileOnly, wiper), chip)
      else if steps = 0 ∨ wiper.room direction = 0 then ((.ok (), wiper), chip)
      else if position = wiper.limit direction ∨ steps > maxBurst then
        let written := wiper.clamp (Int32.ofNat position.toNat)
        ((.ok (), { wiper with position := written }), chip.setRegister slot written)
      else
        ((.ok (), { wiper with position }),
          chip.setRegister slot
            (Chip.swept chip.limit (chip.register slot) (wiper.reach direction steps).toNat
              direction)) := by
  rw [run_step]
  by_cases hmode : wiper.mode = .volatileOnly
  · rw [if_neg (not_not_intro hmode)]
    simp only [hmode, ne_eq, not_true_eq_false, if_false]
    by_cases hnone : steps = 0 ∨ wiper.room direction = 0
    · rw [if_pos hnone, if_pos hnone]
      rfl
    rw [if_neg hnone, if_neg hnone]
    show chip.converse (if wiper.moved direction (wiper.reach direction steps) =
      wiper.limit direction ∨ steps > maxBurst then _ else _) = _
    split
    · rw [Chip.converse_say, converse_moveTo, hmode]
      rfl
    · next hfew =>
      obtain ⟨hsteps, hroom⟩ := not_or.1 hnone
      have hreach := wiper.toNat_reach direction steps
      have hsteps : 0 < steps.toNat :=
        Nat.pos_of_ne_zero fun h => hsteps (UInt32.toNat_inj.1 h)
      have hroom : 0 < (wiper.room direction).toNat :=
        Nat.pos_of_ne_zero fun h => hroom (UInt16.toNat_inj.1 h)
      have hburst : steps.toNat ≤ 5 :=
        Nat.not_lt.1 fun h => hfew (.inr (UInt32.lt_iff_toNat_lt.2 h))
      have hpos : 0 < (wiper.reach direction steps).toNat := by omega
      have hle : (wiper.reach direction steps).toNat ≤ Registers.maxBurst := by
        rw [hreach, Registers.maxBurst]
        omega
      have hfold : (min steps (wiper.room direction).toUInt32).toUInt16 =
          wiper.reach direction steps := rfl
      rw [Chip.converse_say, Chip.converse_bind, hfold, converse_pulse_volatile hpos hle]
      rfl
  · rw [if_pos hmode, if_pos hmode]
    rfl

/-- Changing the mode leaves the chip alone, whether it is admitted or not. -/
theorem converse_setMode (chip : Chip) (mode : Mode) (wiper : Wiper) :
    chip.converse ((setMode mode).run.run wiper) =
      match wiper.model.checkMode mode with
      | .ok () => ((.ok (), { wiper with mode }), chip)
      | .error error => ((.error error, wiper), chip) := by
  rw [run_setMode]
  cases wiper.model.checkMode mode <;> rfl

/-! ## Operations that leave the wiper alone -/

theorem converse_nonVolatileValue (chip : Chip) (wiper : Wiper) :
    chip.converse (nonVolatileValue.run.run wiper) =
      ((wiper.model.checkEeprom.map fun _ => chip.register wiper.channel.nonVolatileSlot, wiper),
        chip) := by
  rw [run_nonVolatileValue]
  cases wiper.model.checkEeprom with
  | error error => rfl
  | ok _ =>
    simp only
    rw [Chip.converse_bind, Registers.converse_nonVolatileValue]
    rfl

theorem converse_status (chip : Chip) (wiper : Wiper) :
    chip.converse (status.run.run wiper) =
      (((Status.ofWord (chip.register 5)).map (·.forChannel wiper.channel), wiper), chip) := by
  rw [run_status, Chip.converse_bind, Registers.converse_status]
  rfl

theorem converse_terminals (chip : Chip) (wiper : Wiper) :
    chip.converse (terminals.run.run wiper) =
      ((.ok (.ofWord wiper.channel (chip.register wiper.channel.terminalSlot)), wiper), chip) := by
  rw [run_terminals, Chip.converse_bind, Registers.converse_terminals]
  rfl

/-- A terminal setting of another channel is refused; one of the own channel is merged into the
register unless the merged word is too wide for it. -/
theorem converse_setTerminals (chip : Chip) (setting : Terminals) (wiper : Wiper) :
    chip.converse ((setTerminals setting).run.run wiper) =
      let slot := wiper.channel.terminalSlot
      let word := setting.applyTo (chip.register slot)
      if setting.channel = wiper.channel then
        if word ≤ Registers.maxWord then ((.ok (), wiper), chip.setRegister slot word)
        else ((.error (.valueOutOfRange word), wiper), chip)
      else ((.error (.channelMismatch wiper.channel setting.channel), wiper), chip) := by
  rw [run_setTerminals]
  by_cases hchannel : setting.channel = wiper.channel
  · rw [if_pos hchannel, Chip.converse_bind, Registers.converse_setTerminals]
    simp only [hchannel, if_true]
    split <;> rfl
  · simp only [hchannel, if_false]
    rfl

theorem converse_setLock (chip : Chip) (locked : Bool) (wiper : Wiper) :
    chip.converse ((setLock locked).run.run wiper) =
      match wiper.model.checkEeprom with
      | .ok () =>
        ((.ok (), wiper),
          chip.setRegister 5 (assign (chip.register 5) wiper.channel.lockFlag locked))
      | .error error => ((.error error, wiper), chip) := by
  rw [run_setLock]
  cases wiper.model.checkEeprom with
  | error error => rfl
  | ok _ =>
    simp only
    rw [Chip.converse_bind, Registers.converse_setLock]
    rfl

theorem converse_setProtection (chip : Chip) (enabled : Bool) (wiper : Wiper) :
    chip.converse ((setProtection enabled).run.run wiper) =
      match wiper.model.checkEeprom with
      | .ok () => ((.ok (), wiper), chip.setRegister 5 (assign (chip.register 5) 0x1 enabled))
      | .error error => ((.error error, wiper), chip) := by
  rw [run_setProtection]
  cases wiper.model.checkEeprom with
  | error error => rfl
  | ok _ =>
    simp only
    rw [Chip.converse_bind, Registers.converse_setProtection]
    rfl

/-! ## Operations as data -/

/-- A program whose value is wrapped up as a result does the same otherwise. -/
theorem run_wrap (f : α → β) (program : Program α) (wiper : Wiper) :
    (f <$> program).run.run wiper =
      (fun ended => (ended.1.map f, ended.2)) <$> program.run.run wiper := by
  rw [ExceptT.run_map]
  rfl

/-- The same on a chip. -/
theorem converse_wrap (chip : Chip) (f : α → β) (program : Program α) (wiper : Wiper) :
    chip.converse ((f <$> program).run.run wiper) =
      let ended := chip.converse (program.run.run wiper)
      ((ended.1.1.map f, ended.1.2), ended.2) := by
  rw [run_wrap, Chip.converse_map]

end WiperDriver.Wiper
