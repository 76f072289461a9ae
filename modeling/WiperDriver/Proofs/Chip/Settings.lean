import WiperDriver.Proofs.Terminals

/-!
# Four settings in two registers

`Chip.settings` is what the two terminal control registers say of the four channels. Writing a
setting changes the setting of its channel (`settings_setTerminals`) and nothing else of the chip
that a setting does not say (`sameAround_setTerminals`); and what a chip is comes down to these two
(`eq_of_settings`). So the settings behave as four cells: of several writes to one the last stays
(`settings_foldl`), and writes to different ones can change places (`setTerminals_comm`).
-/

namespace WiperDriver.Chip

/-- The terminal settings of the channels. -/
def settings (chip : Chip) (channel : Channel) : Terminals :=
  .ofWord channel (chip.register channel.terminalSlot)

/-- The chip with a setting merged into the register of its channel. -/
def setTerminals (chip : Chip) (setting : Terminals) : Chip :=
  chip.setRegister setting.channel.terminalSlot
    (setting.applyTo (chip.register setting.channel.terminalSlot))

/-- Two chips are the same but for what settings say. -/
structure SameAround (one other : Chip) : Prop where
  /-- The registers that hold no settings. -/
  register : ∀ slot, (∀ channel : Channel, slot ≠ channel.terminalSlot) →
    one.register slot = other.register slot
  /-- The bits that belong to no channel, in those that do. -/
  rest : ∀ channel : Channel, one.register channel.terminalSlot &&& Channel.terminalRest =
    other.register channel.terminalSlot &&& Channel.terminalRest
  limit : one.limit = other.limit

variable {one other third : Chip}

theorem SameAround.refl (chip : Chip) : SameAround chip chip :=
  ⟨fun _ _ => rfl, fun _ => rfl, rfl⟩

theorem SameAround.symm (h : SameAround one other) : SameAround other one :=
  ⟨fun slot hslot => (h.register slot hslot).symm, fun channel => (h.rest channel).symm,
    h.limit.symm⟩

theorem SameAround.trans (h : SameAround one other) (h' : SameAround other third) :
    SameAround one third :=
  ⟨fun slot hslot => (h.register slot hslot).trans (h'.register slot hslot),
    fun channel => (h.rest channel).trans (h'.rest channel), h.limit.trans h'.limit⟩

/-! ## One write -/

/-- **A write changes the setting of its channel.** -/
theorem settings_setTerminals (chip : Chip) (setting : Terminals) (channel : Channel) :
    (chip.setTerminals setting).settings channel =
      if setting.channel = channel then setting else chip.settings channel := by
  unfold settings setTerminals
  by_cases hown : setting.channel = channel
  · rw [if_pos hown, ← hown, register_setRegister_self]
    exact Terminals.ofWord_applyTo setting _
  · rw [if_neg hown]
    by_cases hshared : setting.channel.terminalSlot = channel.terminalSlot
    · -- The sibling's nibble is in the same register, but it is another nibble.
      have hapart := Channel.terminalMask_disjoint hown hshared
      rw [← hshared, register_setRegister_self]
      exact Terminals.ofWord_congr (Terminals.applyTo_and_of_disjoint hapart _)
    · rw [register_setRegister_of_ne hshared]

/-- **A write changes nothing else.** -/
theorem sameAround_setTerminals (chip : Chip) (setting : Terminals) :
    SameAround (chip.setTerminals setting) chip := by
  refine ⟨fun slot hslot => register_setRegister_of_ne (hslot setting.channel).symm chip _,
    fun channel => ?_, rfl⟩
  unfold setTerminals
  by_cases hshared : setting.channel.terminalSlot = channel.terminalSlot
  · rw [← hshared, register_setRegister_self]
    exact Terminals.applyTo_and_of_disjoint setting.channel.terminalMask_and_rest _
  · rw [register_setRegister_of_ne hshared]

/-- What is written is what the channel has already: the chip stays as it is. -/
theorem setTerminals_settings (chip : Chip) (channel : Channel) :
    chip.setTerminals (chip.settings channel) = chip := by
  have hword : (chip.settings channel).applyTo (chip.register channel.terminalSlot) =
      chip.register channel.terminalSlot := Terminals.applyTo_ofWord channel _
  have hslot : (chip.settings channel).channel.terminalSlot = channel.terminalSlot := rfl
  rw [setTerminals, hslot, hword, setRegister_register]

/-! ## What a chip is -/

/-- A chip is its registers and its limit. -/
theorem eq_of_register (hregister : ∀ slot, one.register slot = other.register slot)
    (hlimit : one.limit = other.limit) : one = other := by
  obtain ⟨registers, limit⟩ := one
  obtain ⟨registers', limit'⟩ := other
  have hregisters : registers = registers' :=
    Vector.ext fun index hindex => hregister ⟨index, hindex⟩
  rw [Chip.mk.injEq]
  exact ⟨hregisters, hlimit⟩

/-- **The settings and what is around them make up the chip.** -/
theorem eq_of_settings (haround : SameAround one other)
    (hsettings : ∀ channel, one.settings channel = other.settings channel) : one = other := by
  refine eq_of_register (fun slot => ?_) haround.limit
  by_cases hslot : ∃ channel : Channel, slot = channel.terminalSlot
  · obtain ⟨channel, rfl⟩ := hslot
    obtain ⟨sibling, hne, hshared⟩ := channel.exists_sibling
    have hsibling := Terminals.nibble_congr (hsettings sibling)
    rw [← hshared] at hsibling
    exact eq_of_nibbles hne hshared (Terminals.nibble_congr (hsettings channel)) hsibling
      (haround.rest channel)
  · exact haround.register slot fun channel h => hslot ⟨channel, h⟩

/-- **Writes to different channels can change places.** -/
theorem setTerminals_comm {setting setting' : Terminals}
    (h : setting.channel ≠ setting'.channel) (chip : Chip) :
    (chip.setTerminals setting).setTerminals setting' =
      (chip.setTerminals setting').setTerminals setting := by
  have haround (first second : Terminals) :
      SameAround ((chip.setTerminals first).setTerminals second) chip :=
    (sameAround_setTerminals _ second).trans (sameAround_setTerminals chip first)
  refine eq_of_settings ((haround setting setting').trans (haround setting' setting).symm) ?_
  intro channel
  simp only [settings_setTerminals]
  by_cases hown : setting.channel = channel
  · have hother : setting'.channel ≠ channel := fun hsame => h (hown.trans hsame.symm)
    rw [if_neg hother, if_pos hown, if_pos hown]
  · rw [if_neg hown, if_neg hown]

/-! ## Many writes -/

/-- The last of some settings that is for a channel. -/
def lastFor (channel : Channel) (written : List Terminals) : Option Terminals :=
  (written.filter (·.channel = channel)).getLast?

theorem lastFor_cons (channel : Channel) (setting : Terminals) (later : List Terminals) :
    lastFor channel (setting :: later) =
      if setting.channel = channel then some ((lastFor channel later).getD setting)
      else lastFor channel later := by
  unfold lastFor
  rw [List.filter_cons]
  by_cases hown : setting.channel = channel
  · rw [if_pos (decide_eq_true hown), if_pos hown, List.getLast?_cons]
  · rw [if_neg (by simpa using hown), if_neg hown]

/-- **Of many writes the last one for a channel stays.** -/
theorem settings_foldl (written : List Terminals) (chip : Chip) (channel : Channel) :
    (written.foldl setTerminals chip).settings channel =
      (lastFor channel written).getD (chip.settings channel) := by
  induction written generalizing chip with
  | nil => rfl
  | cons setting later ih =>
    rw [List.foldl_cons, ih, settings_setTerminals, lastFor_cons]
    by_cases hown : setting.channel = channel
    · rw [if_pos hown, if_pos hown]
      rfl
    · rw [if_neg hown, if_neg hown]

/-- Whatever is written, nothing else changes. -/
theorem sameAround_foldl (written : List Terminals) (chip : Chip) :
    SameAround (written.foldl setTerminals chip) chip := by
  induction written generalizing chip with
  | nil => exact .refl chip
  | cons setting later ih => exact (ih _).trans (sameAround_setTerminals chip setting)

/-! ## Narrow registers -/

/-- The terminal control registers have no more bits than nine. -/
def Narrow (chip : Chip) : Prop :=
  ∀ channel : Channel, chip.register channel.terminalSlot ≤ Registers.maxWord

/-- No write of a setting changes that. -/
theorem SameAround.narrow (h : SameAround one other) (hnarrow : other.Narrow) : one.Narrow :=
  fun channel => (Terminals.le_maxWord_congr (h.rest channel)).2 (hnarrow channel)

end WiperDriver.Chip
