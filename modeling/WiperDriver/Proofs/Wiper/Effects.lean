import WiperDriver.Proofs.Wiper.Conversation

/-!
# What a wiper operation can change

`affects_perform` lists once what any operation can do to a chip and to the wiper: `Touched` says
which registers it writes, `Effect` what becomes of the volatile register and of the known position.
Results about runs of operations start from here and need no case analysis of their own.
-/

namespace WiperDriver.Wiper

/-- What a channel can make of a chip: it writes to the two registers of its wiper, to STATUS, and
to its terminal control register, and to the latter only words with its own setting merged in. -/
inductive Touched (channel : Channel) (chip : Chip) : Chip → Prop
  | kept : Touched channel chip chip
  | volatile {after} (h : Touched channel chip after) (position : UInt16) :
    Touched channel chip (after.setRegister channel.volatileSlot position)
  | stored {after} (h : Touched channel chip after) (position : UInt16) :
    Touched channel chip (after.setRegister channel.nonVolatileSlot position)
  | status {after} (h : Touched channel chip after) (word : UInt16) :
    Touched channel chip (after.setRegister 5 word)
  | terminals {after} (h : Touched channel chip after) (setting : Terminals)
    (hchannel : setting.channel = channel)
    (hfits : setting.applyTo (after.register channel.terminalSlot) ≤ Registers.maxWord) :
    Touched channel chip
      (after.setRegister channel.terminalSlot
        (setting.applyTo (after.register channel.terminalSlot)))

theorem Touched.limit {channel : Channel} {chip after : Chip} (h : Touched channel chip after) :
    after.limit = chip.limit := by
  induction h with
  | kept => rfl
  | volatile _ _ ih | stored _ _ ih | status _ _ ih | terminals _ _ _ _ ih => exact ih

/-- Every other register stays as it is. -/
theorem Touched.register {channel : Channel} {chip after : Chip} (h : Touched channel chip after)
    {slot : Fin 16} (hvolatile : slot ≠ channel.volatileSlot)
    (hstored : slot ≠ channel.nonVolatileSlot) (hterminal : slot ≠ channel.terminalSlot)
    (hstatus : slot ≠ 5) : after.register slot = chip.register slot := by
  induction h with
  | kept => rfl
  | volatile _ _ ih => rw [Chip.register_setRegister_of_ne hvolatile.symm, ih]
  | stored _ _ ih => rw [Chip.register_setRegister_of_ne hstored.symm, ih]
  | status _ _ ih => rw [Chip.register_setRegister_of_ne hstatus.symm, ih]
  | terminals _ _ _ _ ih => rw [Chip.register_setRegister_of_ne hterminal.symm, ih]

/-- What an operation can make of the volatile register, and of the known position. -/
inductive Effect (limit : UInt16) (wiper : Wiper) (before : UInt16) : UInt16 → UInt16 → Prop
  /-- Neither changes. -/
  | kept : Effect limit wiper before before wiper.position
  /-- The register is read. -/
  | read : Effect limit wiper before before (min before wiper.model.maxValue)
  /-- Both are set to a position of the model. -/
  | set (target : Int32) : Effect limit wiper before (wiper.clamp target) (wiper.clamp target)
  /-- Both move by a burst that ends before the limit of its direction. -/
  | burst (direction : Direction) (count : UInt16) (h : count < wiper.room direction) :
    Effect limit wiper before (Chip.swept limit before count.toNat direction)
      (wiper.moved direction count)

/-- What an operation leaves of a chip and a wiper. -/
structure Affects (chip : Chip) (wiper : Wiper) (after : Chip) (wiper' : Wiper) : Prop where
  wiper_eq : wiper' = { wiper with mode := wiper'.mode, position := wiper'.position }
  touched : Touched wiper.channel chip after
  effect : Effect chip.limit wiper (chip.register wiper.channel.volatileSlot)
    (after.register wiper.channel.volatileSlot) wiper'.position

section

variable {chip after : Chip} {wiper : Wiper}

/-- An operation can leave chip and wiper alone. -/
theorem Affects.kept : Affects chip wiper chip wiper :=
  ⟨rfl, .kept, .kept⟩

/-- An operation can write to registers other than the volatile one. -/
theorem Affects.of_touched (h : Touched wiper.channel chip after)
    (hkept : after.register wiper.channel.volatileSlot =
      chip.register wiper.channel.volatileSlot) : Affects chip wiper after wiper :=
  ⟨rfl, h, hkept ▸ .kept⟩

/-- An operation can set the volatile register and the known position. -/
theorem Affects.set (target : Int32) :
    Affects chip wiper (chip.setRegister wiper.channel.volatileSlot (wiper.clamp target))
      { wiper with position := wiper.clamp target } := by
  refine ⟨rfl, .volatile .kept _, ?_⟩
  rw [Chip.register_setRegister_self]
  exact .set target

end

/-- A number of steps that does not end at the limit of its direction does not get there. -/
theorem lt_room_of_moved_ne {wiper : Wiper} {direction : Direction} {count : UInt16}
    (hle : count ≤ wiper.room direction) (h : wiper.moved direction count ≠ wiper.limit direction) :
    count < wiper.room direction := by
  have hne : count ≠ wiper.room direction := by
    rintro rfl
    apply h
    cases direction with
    | up => exact (UInt16.add_comm _ _).trans (UInt16.sub_add_cancel _ _)
    | down => exact UInt16.sub_self _
  rw [UInt16.lt_iff_toNat_lt]
  exact Nat.lt_of_le_of_ne (UInt16.le_iff_toNat_le.1 hle) fun heq => hne (UInt16.toNat_inj.1 heq)

theorem affects_step (chip : Chip) (direction : Direction) (steps : UInt32) (wiper : Wiper) :
    let ended := chip.converse ((step direction steps).run.run wiper)
    Affects chip wiper ended.2 ended.1.2 := by
  rw [converse_step]
  simp only
  split
  · exact .kept
  split
  · exact .kept
  split
  · exact .set _
  · next hfew =>
    refine ⟨rfl, .volatile .kept _, ?_⟩
    rw [Chip.register_setRegister_self]
    exact .burst direction _ (lt_room_of_moved_ne (reach_le_room ..) (not_or.1 hfew).1)

theorem affects_moveTo (chip : Chip) (target : Int32) (wiper : Wiper) :
    let ended := chip.converse ((moveTo target).run.run wiper)
    Affects chip wiper ended.2 ended.1.2 := by
  have hapart := wiper.channel.nonVolatileSlot_ne_volatileSlot wiper.channel
  rw [converse_moveTo]
  cases hmode : wiper.mode with
  | volatileOnly =>
    refine ⟨rfl, .volatile .kept _, ?_⟩
    rw [Chip.register_setRegister_self]
    exact .set target
  | nonVolatileOnly =>
    exact .of_touched (.stored .kept _) (Chip.register_setRegister_of_ne hapart chip _)
  | volatileAndNonVolatile =>
    refine ⟨rfl, .stored (.volatile .kept _) _, ?_⟩
    rw [Chip.register_setRegister_of_ne hapart, Chip.register_setRegister_self]
    exact .set target

theorem affects_setTerminals (chip : Chip) (setting : Terminals) (wiper : Wiper) :
    let ended := chip.converse ((setTerminals setting).run.run wiper)
    Affects chip wiper ended.2 ended.1.2 := by
  rw [converse_setTerminals]
  simp only
  split
  · next hchannel =>
    split
    · next hfits =>
      refine .of_touched (.terminals .kept setting hchannel hfits) ?_
      exact Chip.register_setRegister_of_ne
        (wiper.channel.terminalSlot_ne_volatileSlot wiper.channel) chip _
    · exact .kept
  · exact .kept

/-- **What an operation does to a chip and a wiper.** -/
theorem affects_perform (chip : Chip) (operation : Operation) (wiper : Wiper) :
    let ended := chip.converse (operation.perform.run.run wiper)
    Affects chip wiper ended.2 ended.1.2 := by
  have hstatus (word : UInt16) : Affects chip wiper (chip.setRegister 5 word) wiper :=
    .of_touched (.status .kept word)
      (Chip.register_setRegister_of_ne wiper.channel.status_ne_volatileSlot chip word)
  simp only
  cases operation <;> simp only [Operation.perform, converse_wrap]
  case increase | increaseBy => exact affects_step chip .up _ wiper
  case decrease | decreaseBy => exact affects_step chip .down _ wiper
  case moveTo target => exact affects_moveTo chip target wiper
  case setTerminals setting => exact affects_setTerminals chip setting wiper
  case update =>
    rw [converse_update]
    exact ⟨rfl, .kept, .read⟩
  case setMode mode =>
    rw [converse_setMode]
    split
    · exact ⟨rfl, .kept, .kept⟩
    · exact .kept
  case nonVolatileValue =>
    rw [converse_nonVolatileValue]
    exact .kept
  case status =>
    rw [converse_status]
    exact .kept
  case terminals =>
    rw [converse_terminals]
    exact .kept
  case setLock locked =>
    rw [converse_setLock]
    split
    · exact hstatus _
    · exact .kept
  case setProtection enabled =>
    rw [converse_setProtection]
    split
    · exact hstatus _
    · exact .kept

/-- Taking control changes the volatile register at most, and gives a wiper of the channel. -/
theorem touched_start (chip : Chip) (model : Model) (channel : Channel) (mode : Mode)
    (initial : Int32) :
    let ended := chip.converse (start model channel mode initial).run
    Touched channel chip ended.2 ∧ ∀ wiper, ended.1 = .ok wiper → wiper.channel = channel := by
  rw [converse_start]
  split
  · exact ⟨.kept, nofun⟩
  · exact ⟨.kept, nofun⟩
  · simp only
    split
    · refine ⟨.kept, fun wiper h => ?_⟩
      cases h
      rfl
    · refine ⟨.volatile .kept _, fun wiper h => ?_⟩
      cases h
      rfl

end WiperDriver.Wiper
