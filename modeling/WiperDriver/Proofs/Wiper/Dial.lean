import WiperDriver.Proofs.Wiper.Task

/-!
# Wipers as dials

`Dial` is a wiper without a chip, a bus or a cache: the position, the stored position and the mode,
all in plain numbers. `Dial.perform` says what every command gives and leaves. `session_eq_dial` is
the refinement: whatever is asked of a channel, in any order, changing modes and taking control
again included, the results are those of the dial, the two registers hold its positions, the handle
knows its position and mode, and no other register has changed.

What it rests on is that the known position never leaves the register (`Shown`). A step is then the
same whether it is carried out by a burst, by a write or not at all (`converse_step_of_known`).
-/

namespace WiperDriver.Wiper

/-! ## The dial -/

/-- A wiper position, the stored copy of it, and the mode in which the wiper is under control, if
it is. -/
structure Dial where
  volatile : Nat
  stored : Nat
  mode : Option Mode
  deriving DecidableEq, Repr

namespace Dial

/-- What can be done with a dial under control. -/
inductive Operation where
  | update
  | moveTo (target : Int32)
  | increase
  | decrease
  | increaseBy (steps : UInt32)
  | decreaseBy (steps : UInt32)
  | setMode (mode : Mode)
  | nonVolatileValue
  deriving DecidableEq, Repr

/-- The operation of a wiper. -/
def Operation.ofWiper : Operation → Wiper.Operation
  | .update => .update
  | .moveTo target => .moveTo target
  | .increase => .increase
  | .decrease => .decrease
  | .increaseBy steps => .increaseBy steps
  | .decreaseBy steps => .decreaseBy steps
  | .setMode mode => .setMode mode
  | .nonVolatileValue => .nonVolatileValue

/-- What can be asked of a dial. -/
inductive Command where
  | start (mode : Mode) (initial : Int32)
  | perform (operation : Operation)
  deriving DecidableEq, Repr

/-- The task of a channel. -/
def Command.task : Command → Task
  | .start mode initial => .start mode initial
  | .perform operation => .perform operation.ofWiper

/-- The position nearest to a number. -/
def nearest (model : Model) (value : Int) : Nat :=
  (max 0 (min value model.maxValue.toNat)).toNat

/-- Whether a model has a mode. -/
def admitted (model : Model) (mode : Mode) : Bool :=
  mode = .volatileOnly || model.hasEeprom

/-- The dial set to a position, where the mode says. -/
def set (dial : Dial) (position : Nat) : Mode → Dial
  | .volatileOnly => { dial with volatile := position }
  | .nonVolatileOnly => { dial with stored := position }
  | .volatileAndNonVolatile => { dial with volatile := position, stored := position }

/-- The dial turned by some steps, which only the position itself can be. -/
def turn (model : Model) (mode : Mode) (direction : Direction) (steps : Nat) (dial : Dial) :
    Except Error Result × Dial :=
  if mode ≠ .volatileOnly then (.error .volatileOnly, dial)
  else
    match direction with
    | .up => (.ok .done, { dial with volatile := min (dial.volatile + steps) model.maxValue.toNat })
    | .down => (.ok .done, { dial with volatile := dial.volatile - steps })

/-- What an operation gives and leaves. -/
def operate (model : Model) (mode : Mode) (dial : Dial) : Operation → Except Error Result × Dial
  | .update => (.ok (.position (.ofNat dial.volatile)), dial)
  | .moveTo target => (.ok .done, dial.set (nearest model target.toInt) mode)
  | .increase => dial.turn model mode .up 1
  | .decrease => dial.turn model mode .down 1
  | .increaseBy steps => dial.turn model mode .up steps.toNat
  | .decreaseBy steps => dial.turn model mode .down steps.toNat
  | .setMode mode =>
    if admitted model mode then (.ok .done, { dial with mode := some mode })
    else (.error .nonVolatileNotSupported, dial)
  | .nonVolatileValue =>
    if model.hasEeprom then (.ok (.position (.ofNat dial.stored)), dial)
    else (.error .nonVolatileNotSupported, dial)

/-- What a command gives and leaves. Taking control keeps the position of a model with EEPROM and
sets that of any other model. -/
def perform (model : Model) : Command → StateM Dial (Option (Except Error Result))
  | .start mode initial, dial =>
    if admitted model mode then
      (some (.ok .done),
        { dial with
          mode := some mode
          volatile := if model.hasEeprom then dial.volatile else nearest model initial.toInt })
    else (some (.error .nonVolatileNotSupported), { dial with mode := none })
  | .perform operation, dial =>
    match dial.mode with
    | some mode =>
      let (result, dial) := dial.operate model mode operation
      (some result, dial)
    | none => (none, dial)

end Dial

/-! ## Steps from a known position -/

/-- Where a step leads, in plain numbers. -/
theorem toNat_moved_reach {wiper : Wiper} (h : wiper.InRange) (direction : Direction)
    (steps : UInt32) :
    (wiper.moved direction (wiper.reach direction steps)).toNat =
      match direction with
      | .up => min (wiper.position.toNat + steps.toNat) wiper.model.maxValue.toNat
      | .down => wiper.position.toNat - steps.toNat := by
  have hreach := wiper.toNat_reach direction steps
  have hle := wiper.reach_le_room direction steps
  have hrange := UInt16.le_iff_toNat_le.1 h
  cases direction with
  | up =>
    rw [toNat_room_up h] at hreach
    rw [toNat_moved_up h hle]
    simp only
    omega
  | down =>
    rw [room] at hreach
    rw [toNat_moved_down hle]
    simp only
    omega

theorem moved_reach_le {wiper : Wiper} (h : wiper.InRange) (direction : Direction)
    (steps : UInt32) :
    wiper.moved direction (wiper.reach direction steps) ≤ wiper.model.maxValue := by
  have hmoved := toNat_moved_reach h direction steps
  have hrange := UInt16.le_iff_toNat_le.1 h
  rw [UInt16.le_iff_toNat_le, hmoved]
  cases direction <;> simp only <;> omega

/-- A step by nothing, or to where there is no room, reaches the position it starts from. -/
theorem moved_reach_of_none {wiper : Wiper} {direction : Direction} {steps : UInt32}
    (h : steps = 0 ∨ wiper.room direction = 0) :
    wiper.moved direction (wiper.reach direction steps) = wiper.position := by
  have hreach : wiper.reach direction steps = 0 := by
    apply UInt16.toNat_inj.1
    rw [toNat_reach]
    rcases h with rfl | hroom
    · exact Nat.zero_min _
    · rw [hroom]
      exact Nat.min_zero _
  rw [hreach]
  cases direction with
  | up => exact UInt16.add_zero _
  | down => exact UInt16.sub_zero _

/-- A burst that starts from the known position ends where the step leads. -/
theorem swept_reach {wiper : Wiper} (h : wiper.InRange) {limit : UInt16}
    (hlimit : wiper.model.maxValue ≤ limit) (direction : Direction) (steps : UInt32) :
    Chip.swept limit wiper.position (wiper.reach direction steps).toNat direction =
      wiper.moved direction (wiper.reach direction steps) := by
  have hreach := wiper.toNat_reach direction steps
  have hrange := UInt16.le_iff_toNat_le.1 h
  have hlimit := UInt16.le_iff_toNat_le.1 hlimit
  apply UInt16.toNat_inj.1
  rw [toNat_moved_reach h]
  cases direction with
  | up =>
    rw [toNat_room_up h] at hreach
    rw [Chip.toNat_swept_up]
    simp only
    omega
  | down =>
    rw [room] at hreach
    rw [Chip.toNat_swept_down]
    simp only
    omega

/-- From a known position a step moves the register and the known position alike, however it is
carried out. -/
theorem converse_step_of_known {chip : Chip} {wiper : Wiper} (hrange : wiper.InRange)
    (hlimit : wiper.model.maxValue ≤ chip.limit) (hmode : wiper.mode = .volatileOnly)
    (hknown : chip.register wiper.channel.volatileSlot = wiper.position) (direction : Direction)
    (steps : UInt32) :
    let position := wiper.moved direction (wiper.reach direction steps)
    chip.converse ((step direction steps).run.run wiper) =
      ((.ok (), { wiper with position }),
        chip.setRegister wiper.channel.volatileSlot position) := by
  rw [converse_step]
  simp only
  rw [if_neg (not_not_intro hmode)]
  split
  · next hnone => rw [moved_reach_of_none hnone, ← hknown, Chip.setRegister_register, hknown]
  split
  · rw [clamp_ofNat (moved_reach_le hrange direction steps)]
  · rw [hknown, swept_reach hrange hlimit]

/-- A target is clamped to the nearest position. -/
theorem toNat_clamp_eq_nearest (wiper : Wiper) (target : Int32) :
    (wiper.clamp target).toNat = Dial.nearest wiper.model target.toInt := by
  rw [toNat_clamp, Dial.nearest]
  omega

/-! ## Chips and handles that show a dial -/

/-- The wiper under control that a channel with a dial has, if any. -/
def Dial.wiper (model : Model) (channel : Channel) (dial : Dial) : Option Wiper :=
  dial.mode.map fun mode => { model, channel, mode, position := .ofNat dial.volatile }

/-- A chip and a handle of a channel show a dial: the registers of the channel hold its positions,
and the handle knows its position and mode. The position is one of the model's as soon as the wiper
is under control, and on a model with EEPROM before that. -/
structure Shown (model : Model) (channel : Channel) (chip : Chip) (handle : Option Wiper)
    (dial : Dial) : Prop where
  volatile : (chip.register channel.volatileSlot).toNat = dial.volatile
  stored : (chip.register channel.nonVolatileSlot).toNat = dial.stored
  handle : handle = dial.wiper model channel
  bounded : model.hasEeprom = true ∨ dial.mode.isSome = true →
    dial.volatile ≤ model.maxValue.toNat

/-- No register but the two of a channel's wiper has changed. -/
structure SameElsewhere (channel : Channel) (before after : Chip) : Prop where
  limit : after.limit = before.limit
  register : ∀ slot, slot ≠ channel.volatileSlot → slot ≠ channel.nonVolatileSlot →
    after.register slot = before.register slot

theorem SameElsewhere.refl (channel : Channel) (chip : Chip) : SameElsewhere channel chip chip :=
  ⟨rfl, fun _ _ _ => rfl⟩

theorem SameElsewhere.trans {channel : Channel} {before between after : Chip}
    (h : SameElsewhere channel before between) (h' : SameElsewhere channel between after) :
    SameElsewhere channel before after :=
  ⟨h'.limit.trans h.limit,
    fun slot hv hs => (h'.register slot hv hs).trans (h.register slot hv hs)⟩

theorem SameElsewhere.setVolatile (channel : Channel) (chip : Chip) (position : UInt16) :
    SameElsewhere channel chip (chip.setRegister channel.volatileSlot position) :=
  ⟨rfl, fun _ hv _ => by rw [Chip.register_setRegister, if_neg (Ne.symm hv)]⟩

theorem SameElsewhere.setStored (channel : Channel) (chip : Chip) (position : UInt16) :
    SameElsewhere channel chip (chip.setRegister channel.nonVolatileSlot position) :=
  ⟨rfl, fun _ _ hs => by rw [Chip.register_setRegister, if_neg (Ne.symm hs)]⟩

/-- What happened to a chip and a handle is what a dial was told: the result is the same, the dial
is shown, and nothing else has changed. -/
structure Follows {α : Type} (model : Model) (channel : Channel) (before : Chip)
    (ended : (α × Option Wiper) × Chip) (told : α × Dial) : Prop where
  result : ended.1.1 = told.1
  shown : Shown model channel ended.2 ended.1.2 told.2
  elsewhere : SameElsewhere channel before ended.2

section

variable {model : Model} {channel : Channel} {chip : Chip} {handle : Option Wiper} {dial : Dial}

/-- The wiper of a dial under control. -/
theorem Shown.wiper_eq {wiper : Wiper} {mode : Mode}
    (h : Shown model channel chip (some wiper) dial) (hmode : dial.mode = some mode) :
    wiper = { model, channel, mode, position := chip.register channel.volatileSlot } := by
  have hhandle := h.handle
  rw [Dial.wiper, hmode, ← h.volatile, UInt16.ofNat_toNat] at hhandle
  exact Option.some.inj hhandle

theorem Shown.setVolatile (h : Shown model channel chip handle dial) (mode : Mode)
    {position : UInt16} (hle : position ≤ model.maxValue) :
    Shown model channel (chip.setRegister channel.volatileSlot position)
      (some { model, channel, mode, position })
      { dial with mode := some mode, volatile := position.toNat } := by
  refine ⟨?_, ?_, ?_, fun _ => UInt16.le_iff_toNat_le.1 hle⟩
  · rw [Chip.register_setRegister, if_pos rfl]
  · rw [Chip.register_setRegister,
      if_neg (channel.nonVolatileSlot_ne_volatileSlot channel).symm]
    exact h.stored
  · rw [Dial.wiper, UInt16.ofNat_toNat]
    rfl

theorem Shown.setStored (h : Shown model channel chip handle dial) (position : UInt16) :
    Shown model channel (chip.setRegister channel.nonVolatileSlot position) handle
      { dial with stored := position.toNat } := by
  refine ⟨?_, ?_, h.handle, h.bounded⟩
  · rw [Chip.register_setRegister,
      if_neg (channel.nonVolatileSlot_ne_volatileSlot channel)]
    exact h.volatile
  · rw [Chip.register_setRegister, if_pos rfl]

/-- Another mode is a matter of the handle alone. -/
theorem Shown.setMode (h : Shown model channel chip handle dial) (mode : Mode)
    (hle : dial.volatile ≤ model.maxValue.toNat) :
    Shown model channel chip
      (some { model, channel, mode, position := chip.register channel.volatileSlot })
      { dial with mode := some mode } := by
  refine ⟨h.volatile, h.stored, ?_, fun _ => hle⟩
  rw [Dial.wiper, ← h.volatile, UInt16.ofNat_toNat]
  rfl

/-! ## One command -/

variable {mode : Mode} {wiper : Wiper}

/-- Nothing happened, and the dial was left alone. -/
theorem Follows.kept {α : Type} (h : Shown model channel chip handle dial) (result : α) :
    Follows model channel chip ((result, handle), chip) (result, dial) :=
  ⟨rfl, h, .refl channel chip⟩

/-- The wiper under control stands within the range of its model. -/
theorem Shown.inRange (h : Shown model channel chip (some wiper) dial)
    (hmode : dial.mode = some mode) : wiper.InRange := by
  rw [h.wiper_eq hmode, InRange, UInt16.le_iff_toNat_le, h.volatile]
  refine h.bounded (.inr ?_)
  rw [hmode]
  rfl

/-- A step turns the dial. -/
theorem step_follows (h : Shown model channel chip (some wiper) dial)
    (hlimit : model.maxValue ≤ chip.limit) (hmode : dial.mode = some mode) (direction : Direction)
    (steps : UInt32) :
    let ended := chip.converse (((fun _ => .done) <$> step direction steps).run.run wiper)
    Follows model channel chip ((ended.1.1, some ended.1.2), ended.2)
      (dial.turn model mode direction steps.toNat) := by
  have hrange := h.inRange hmode
  obtain ⟨volatile, stored, _⟩ := dial
  cases hmode
  cases h.wiper_eq rfl
  rw [converse_wrap]
  unfold Dial.turn
  by_cases honly : mode = .volatileOnly
  · have hstep := converse_step_of_known hrange hlimit honly rfl direction steps
    have hmoved := toNat_moved_reach hrange direction steps
    have hle := moved_reach_le hrange direction steps
    simp only at hstep hmoved hle
    rw [hstep, if_neg (not_not_intro honly)]
    rw [h.volatile] at hmoved
    have hshown := h.setVolatile mode hle
    rw [hmoved] at hshown
    cases direction with
    | up => exact ⟨rfl, hshown, .setVolatile channel chip _⟩
    | down => exact ⟨rfl, hshown, .setVolatile channel chip _⟩
  · rw [converse_step, if_pos honly, if_pos honly]
    exact .kept h _

/-- A move sets the dial. -/
theorem moveTo_follows (h : Shown model channel chip (some wiper) dial)
    (hmode : dial.mode = some mode) (target : Int32) :
    let ended := chip.converse (((fun _ => Result.done) <$> moveTo target).run.run wiper)
    Follows model channel chip ((ended.1.1, some ended.1.2), ended.2)
      (.ok .done, dial.set (Dial.nearest model target.toInt) mode) := by
  obtain ⟨volatile, stored, _⟩ := dial
  cases hmode
  cases h.wiper_eq rfl
  have hnearest := toNat_clamp_eq_nearest
    ⟨model, channel, mode, chip.register channel.volatileSlot⟩ target
  have hle := clamp_le ⟨model, channel, mode, chip.register channel.volatileSlot⟩ target
  have hshown := h.setVolatile mode hle
  simp only at hnearest
  rw [converse_wrap, converse_moveTo, ← hnearest]
  cases mode with
  | volatileOnly => exact ⟨rfl, hshown, .setVolatile channel chip _⟩
  | nonVolatileOnly => exact ⟨rfl, h.setStored _, .setStored channel chip _⟩
  | volatileAndNonVolatile =>
    exact ⟨rfl, hshown.setStored _,
      (SameElsewhere.setVolatile channel chip _).trans (.setStored channel _ _)⟩

/-- A model refuses the modes that it does not have. -/
theorem checkMode_eq (model : Model) (mode : Mode) :
    model.checkMode mode =
      if Dial.admitted model mode then .ok () else .error .nonVolatileNotSupported := by
  cases mode <;> rfl

/-- An operation operates the dial. -/
theorem operate_follows (h : Shown model channel chip (some wiper) dial)
    (hlimit : model.maxValue ≤ chip.limit) (hmode : dial.mode = some mode)
    (operation : Dial.Operation) :
    let ended := chip.converse (operation.ofWiper.perform.run.run wiper)
    Follows model channel chip ((ended.1.1, some ended.1.2), ended.2)
      (dial.operate model mode operation) := by
  have hrange := h.inRange hmode
  obtain rfl := h.wiper_eq hmode
  cases operation with
  | increase | increaseBy steps => exact step_follows h hlimit hmode .up _
  | decrease | decreaseBy steps => exact step_follows h hlimit hmode .down _
  | moveTo target => exact moveTo_follows h hmode target
  | update =>
    simp only [Dial.Operation.ofWiper, Operation.perform, converse_wrap, converse_update,
      Dial.operate]
    rw [withReading_of_le hrange, ← h.volatile, UInt16.ofNat_toNat]
    exact .kept h _
  | setMode target =>
    simp only [Dial.Operation.ofWiper, Operation.perform, converse_wrap, converse_setMode,
      Dial.operate]
    simp only [checkMode_eq]
    cases Dial.admitted model target with
    | true => exact ⟨rfl, h.setMode target (h.bounded (.inr (hmode ▸ rfl))), .refl channel chip⟩
    | false => exact .kept h _
  | nonVolatileValue =>
    simp only [Dial.Operation.ofWiper, Operation.perform, converse_wrap, converse_nonVolatileValue,
      Dial.operate, Model.checkEeprom]
    cases model.hasEeprom with
    | true =>
      rw [← h.stored, UInt16.ofNat_toNat]
      exact .kept h _
    | false => exact .kept h _

/-- Without a wiper under control, the dial has no mode. -/
theorem Shown.giveUp (h : Shown model channel chip handle dial) :
    Shown model channel chip none { dial with mode := none } :=
  ⟨h.volatile, h.stored, rfl, fun hbound => h.bounded (hbound.imp id (by simp))⟩

/-- Taking control gives the dial its mode, and its position on a model without EEPROM. -/
theorem start_follows (h : Shown model channel chip handle dial)
    (hchannel : model.hasChannel channel = true) (mode : Mode) (initial : Int32) :
    Follows model channel chip
      (chip.converse ((Task.start mode initial).run model channel handle))
      (dial.perform model (.start mode initial)) := by
  have hcheck : model.checkChannel channel = .ok () := Model.checkChannel_eq_ok_iff.2 hchannel
  rw [converse_task_start, converse_start, hcheck, checkMode_eq]
  simp only [Dial.perform]
  cases hadmitted : Dial.admitted model mode with
  | false => exact ⟨rfl, h.giveUp, .refl channel chip⟩
  | true =>
    cases heeprom : model.hasEeprom with
    | true =>
      have hle : dial.volatile ≤ model.maxValue.toNat := h.bounded (.inl heeprom)
      have hregister : chip.register channel.volatileSlot ≤ model.maxValue := by
        rw [UInt16.le_iff_toNat_le, h.volatile]
        exact hle
      simp only [if_true]
      rw [withReading_of_le hregister]
      exact ⟨rfl, h.setMode mode hle, .refl channel chip⟩
    | false =>
      have hle := clamp_le { model, channel, mode, position := 0 } initial
      have hshown := h.setVolatile mode hle
      rw [toNat_clamp_eq_nearest] at hshown
      exact ⟨rfl, hshown, .setVolatile channel chip _⟩

/-- **One command, on a chip and on a dial that it shows.** -/
theorem run_follows (h : Shown model channel chip handle dial)
    (hchannel : model.hasChannel channel = true) (hlimit : model.maxValue ≤ chip.limit)
    (command : Dial.Command) :
    Follows model channel chip (chip.converse (command.task.run model channel handle))
      (dial.perform model command) := by
  cases command with
  | start mode initial => exact start_follows h hchannel mode initial
  | perform operation =>
    have hhandle := h.handle
    cases hmode : dial.mode with
    | none =>
      rw [Dial.wiper, hmode, Option.map_none] at hhandle
      subst hhandle
      simp only [Dial.perform, hmode]
      exact .kept h none
    | some mode =>
      rw [Dial.wiper, hmode, Option.map_some] at hhandle
      subst hhandle
      have hfollows := operate_follows h hlimit hmode operation
      simp only [Dial.perform, Dial.Command.task, converse_task_perform, hmode]
      exact ⟨congrArg some hfollows.result, hfollows.shown, hfollows.elsewhere⟩

end

/-! ## Sequences of commands -/

/-- Performs tasks of one channel one after another, whatever each of them gives. -/
def session (model : Model) (channel : Channel) (tasks : List Task) :
    StateT (Option Wiper) (Dialogue Bus.Call Bus.Answer) (List (Option (Except Error Result))) :=
  tasks.mapM (Task.run model channel)

/-- Performs commands on a dial one after another. -/
def Dial.session (model : Model) (commands : List Dial.Command) :
    StateM Dial (List (Option (Except Error Result))) :=
  commands.mapM (Dial.perform model)

theorem Dial.session_cons (model : Model) (command : Dial.Command) (commands : List Dial.Command)
    (dial : Dial) :
    (Dial.session model (command :: commands)).run dial =
      let first := dial.perform model command
      let rest := (Dial.session model commands).run first.2
      (first.1 :: rest.1, rest.2) := by
  unfold Dial.session
  rw [List.mapM_cons]
  rfl

/-- From a chip and a handle that show a dial, sessions follow it. -/
theorem session_follows {model : Model} {channel : Channel}
    (hchannel : model.hasChannel channel = true) (commands : List Dial.Command) {chip : Chip}
    {handle : Option Wiper} {dial : Dial} (h : Shown model channel chip handle dial)
    (hlimit : model.maxValue ≤ chip.limit) :
    Follows model channel chip
      (chip.converse ((session model channel (commands.map (·.task))).run handle))
      ((Dial.session model commands).run dial) := by
  induction commands generalizing chip handle dial with
  | nil => exact .kept h _
  | cons command commands ih =>
    have hfirst := run_follows h hchannel hlimit command
    have hlimit' := hfirst.elsewhere.limit
    have hrest := ih hfirst.shown (hlimit' ▸ hlimit)
    rw [List.map_cons, session, Chip.converse_mapM_cons, Dial.session_cons]
    exact ⟨congr (congrArg List.cons hfirst.result) hrest.result, hrest.shown,
      hfirst.elsewhere.trans hrest.elsewhere⟩

/-- The dial of a channel that nobody has under control. -/
def Dial.ofChip (channel : Channel) (chip : Chip) : Dial where
  volatile := (chip.register channel.volatileSlot).toNat
  stored := (chip.register channel.nonVolatileSlot).toNat
  mode := none

/-- **A wiper is a dial.** On a chip whose pulses reach as far as the model's highest position, and
whose wiper starts at a position of the model if that model has EEPROM, any sequence of commands on
a channel of the model gives the results of the dial one by one, leaves the positions of the dial in
the two registers of the channel, and leaves in the caller's hands a wiper with the position and the
mode of the dial. No other register changes. -/
theorem session_eq_dial (model : Model) (channel : Channel) (chip : Chip)
    (hchannel : model.hasChannel channel = true) (hlimit : model.maxValue ≤ chip.limit)
    (hstart : model.hasEeprom = true → chip.register channel.volatileSlot ≤ model.maxValue)
    (commands : List Dial.Command) :
    let ended := chip.converse ((session model channel (commands.map (·.task))).run none)
    let told := (Dial.session model commands).run (Dial.ofChip channel chip)
    ended.1.1 = told.1 ∧
      (ended.2.register channel.volatileSlot).toNat = told.2.volatile ∧
      (ended.2.register channel.nonVolatileSlot).toNat = told.2.stored ∧
      ended.1.2 = told.2.wiper model channel ∧
      ∀ slot, slot ≠ channel.volatileSlot → slot ≠ channel.nonVolatileSlot →
        ended.2.register slot = chip.register slot := by
  have hshown : Shown model channel chip none (Dial.ofChip channel chip) := by
    refine ⟨rfl, rfl, rfl, fun hbound => ?_⟩
    rcases hbound with heeprom | hmode
    · exact UInt16.le_iff_toNat_le.1 (hstart heeprom)
    · cases hmode
  have hfollows := session_follows hchannel commands hshown hlimit
  exact ⟨hfollows.result, hfollows.shown.volatile, hfollows.shown.stored, hfollows.shown.handle,
    hfollows.elsewhere.register⟩

/-- Six commands on channel B of an MCP4661: the step from 254 stops at 256, the step in the other
mode is refused, and the wiper that is started again knows its position. -/
theorem session_eq_dial_restarted :
    let chip : Chip := ⟨.replicate 16 254, 256⟩
    let commands : List Dial.Command :=
      [.start .volatileOnly 0, .perform (.increaseBy 5), .start .nonVolatileOnly 9,
        .perform (.moveTo (-1)), .perform .decrease, .perform .nonVolatileValue]
    let ended := chip.converse ((session .mcp4661 .b (commands.map (·.task))).run none)
    ended.1.1 =
        [some (.ok .done), some (.ok .done), some (.ok .done), some (.ok .done),
          some (.error .volatileOnly), some (.ok (.position 0))] ∧
      (ended.2.register Channel.b.volatileSlot).toNat = 256 ∧
      ended.1.2 = some ⟨.mcp4661, .b, .nonVolatileOnly, 256⟩ := by
  intro chip commands ended
  obtain ⟨hresults, hvolatile, _, hhandle, _⟩ :=
    session_eq_dial .mcp4661 .b chip (by decide) (by decide) (fun _ => by decide) commands
  exact ⟨hresults, hvolatile, hhandle⟩

end WiperDriver.Wiper
