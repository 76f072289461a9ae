import WiperDriver.Proofs.Wiper.Independence

/-!
# Several wipers of one chip

The channels of one chip are used in turns over one shared bus, each with a handle of its own.
`channels_independent` says that nobody notices the others: whatever the schedule is, each channel
gets the results that it gets when its own turns are taken alone on the same chip, knows the same
position and mode afterwards, and finds the same registers. Results of status operations and the
STATUS register are left out, because its flags belong to several channels.

The proof follows a schedule and the turns of one channel side by side (`schedule_alike`): a turn of
the channel is taken on both sides, a turn of another channel on one side only.
-/

namespace WiperDriver.Wiper

/-- The wipers under control on one chip, at most one of each channel. -/
abbrev Fleet : Type :=
  Channel → Option Wiper

/-- A channel and what is asked of it. -/
structure Turn where
  channel : Channel
  task : Task
  deriving DecidableEq, Repr

/-- What came of a turn: its result, and the wiper of its channel afterwards. -/
structure Entry where
  turn : Turn
  result : Option (Except Error Result)
  handle : Option Wiper

/-- The entry as far as it is the channel's own. -/
def Entry.own (entry : Entry) : Entry :=
  { entry with result := entry.turn.task.own entry.result }

/-- Takes a turn with the wiper of its channel. -/
def Turn.run (model : Model) (turn : Turn) :
    StateT Fleet (Dialogue Bus.Call Bus.Answer) Entry := fun fleet =>
  turn.task.run model turn.channel (fleet turn.channel) >>= fun (result, handle) =>
    .done (⟨turn, result, handle⟩,
      fun channel => if channel = turn.channel then handle else fleet channel)

/-- Takes turns one after another. -/
def schedule (model : Model) (turns : List Turn) :
    StateT Fleet (Dialogue Bus.Call Bus.Answer) (List Entry) :=
  turns.mapM (Turn.run model)

/-- Takes turns on a chip whose bus is shared and held by nobody, from when no wiper is under
control: the entries, the wipers under control at the end, and the chip. -/
def together (model : Model) (chip : Chip) (turns : List Turn) : (List Entry × Fleet) × Chip :=
  let outcome := ((schedule model turns).run fun _ => none).run (Bus.Shared.respond Chip.respond)
    ⟨false, chip⟩
  (outcome.value, outcome.state.bus)

/-- Those of some turns that are a channel's. -/
def turnsOf (channel : Channel) (turns : List Turn) : List Turn :=
  turns.filter (·.channel = channel)

/-- Those of some entries that are a channel's. -/
def entriesOf (channel : Channel) (entries : List Entry) : List Entry :=
  entries.filter (·.turn.channel = channel)

/-- The shared bus makes no difference. -/
theorem together_eq (model : Model) (chip : Chip) (turns : List Turn) :
    together model chip turns = chip.converse ((schedule model turns).run fun _ => none) := by
  obtain ⟨hvalue, hstate⟩ := chip.run_shared ((schedule model turns).run fun _ => none)
  exact Prod.ext hvalue (congrArg Bus.Shared.bus hstate)

/-! ## One turn -/

/-- Every wiper of a fleet is of its own channel. -/
def Fleet.Sorted (fleet : Fleet) : Prop :=
  ∀ channel, ∀ wiper ∈ fleet channel, wiper.channel = channel

theorem Fleet.sorted_none : Fleet.Sorted fun _ => none :=
  fun _ _ h => nomatch h

theorem converse_turn (chip : Chip) (model : Model) (turn : Turn) (fleet : Fleet) :
    chip.converse ((turn.run model).run fleet) =
      let ended := chip.converse (turn.task.run model turn.channel (fleet turn.channel))
      ((⟨turn, ended.1.1, ended.1.2⟩,
        fun channel => if channel = turn.channel then ended.1.2 else fleet channel), ended.2) := by
  show chip.converse (turn.task.run model turn.channel (fleet turn.channel) >>= _) = _
  rw [Chip.converse_bind]
  rfl

/-- A turn touches what is its channel's, and leaves the fleet sorted. -/
theorem touched_turn (chip : Chip) (model : Model) (turn : Turn) {fleet : Fleet}
    (h : fleet.Sorted) :
    let ended := chip.converse ((turn.run model).run fleet)
    Touched turn.channel chip ended.2 ∧ ended.1.2.Sorted := by
  obtain ⟨htouched, hhandle⟩ := touched_run (h turn.channel) model turn.task chip
  rw [converse_turn]
  refine ⟨htouched, fun channel wiper hwiper => ?_⟩
  simp only at hwiper
  split at hwiper
  · next hchannel => exact (hhandle wiper hwiper).trans hchannel.symm
  · exact h channel wiper hwiper

/-- A turn of a channel ends the same on chips that are alike for it. -/
theorem turn_alike (model : Model) (turn : Turn) {one other : Chip}
    (halike : Alike turn.channel one other) {fleet fleet' : Fleet} (hsorted : fleet.Sorted)
    (hhandle : fleet turn.channel = fleet' turn.channel) :
    let mixed := one.converse ((turn.run model).run fleet)
    let alone := other.converse ((turn.run model).run fleet')
    mixed.1.1.own = alone.1.1.own ∧ mixed.1.2 turn.channel = alone.1.2 turn.channel ∧
      Alike turn.channel mixed.2 alone.2 := by
  obtain ⟨hresult, hafter, halike'⟩ := halike.run (hsorted turn.channel) model turn.task
  rw [converse_turn, converse_turn, ← hhandle]
  refine ⟨?_, ?_, halike'⟩
  · simp only [Entry.own, hresult, hafter]
  · simp only [if_true]
    exact hafter

/-- A turn of another channel changes nothing for a channel. -/
theorem turn_apart (chip : Chip) (model : Model) {turn : Turn} {channel : Channel}
    (hturn : turn.channel ≠ channel) {fleet : Fleet} (hsorted : fleet.Sorted) :
    let ended := chip.converse ((turn.run model).run fleet)
    ended.1.2 channel = fleet channel ∧ Alike channel chip ended.2 := by
  obtain ⟨htouched, -⟩ := touched_turn chip model turn hsorted
  refine ⟨?_, htouched.alike hturn⟩
  rw [converse_turn]
  exact if_neg hturn.symm

/-- An entry is about its turn. -/
theorem turn_entry (chip : Chip) (model : Model) (turn : Turn) (fleet : Fleet) :
    (chip.converse ((turn.run model).run fleet)).1.1.turn = turn := by
  rw [converse_turn]

/-! ## Schedules -/

theorem turnsOf_cons (channel : Channel) (turn : Turn) (turns : List Turn) :
    turnsOf channel (turn :: turns) =
      if turn.channel = channel then turn :: turnsOf channel turns else turnsOf channel turns := by
  simp only [turnsOf, List.filter_cons, decide_eq_true_eq]

theorem entriesOf_cons (channel : Channel) (entry : Entry) (entries : List Entry) :
    entriesOf channel (entry :: entries) =
      if entry.turn.channel = channel then entry :: entriesOf channel entries
      else entriesOf channel entries := by
  simp only [entriesOf, List.filter_cons, decide_eq_true_eq]

/-- **A schedule and the turns of one channel, side by side.** -/
theorem schedule_alike (model : Model) (channel : Channel) (turns : List Turn) {one other : Chip}
    (halike : Alike channel one other) {fleet fleet' : Fleet} (hsorted : fleet.Sorted)
    (hhandle : fleet channel = fleet' channel) :
    let mixed := one.converse ((schedule model turns).run fleet)
    let alone := other.converse ((schedule model (turnsOf channel turns)).run fleet')
    (entriesOf channel mixed.1.1).map Entry.own = alone.1.1.map Entry.own ∧
      mixed.1.2 channel = alone.1.2 channel ∧ Alike channel mixed.2 alone.2 := by
  induction turns generalizing one other fleet fleet' with
  | nil => exact ⟨rfl, hhandle, halike⟩
  | cons turn turns ih =>
    -- The chips of the two sides stay alike for the channel; nothing else of them is compared.
    obtain ⟨-, hsorted'⟩ := touched_turn one model turn hsorted
    have hentry := turn_entry one model turn fleet
    rw [turnsOf_cons, schedule, Chip.converse_mapM_cons]
    by_cases hturn : turn.channel = channel
    · subst hturn
      obtain ⟨hown, hhandle', halike'⟩ := turn_alike model turn halike hsorted hhandle
      obtain ⟨hentries, hfleet, hchips⟩ := ih halike' hsorted' hhandle'
      rw [if_pos rfl, schedule, Chip.converse_mapM_cons]
      refine ⟨?_, hfleet, hchips⟩
      rw [entriesOf_cons, hentry, if_pos rfl, List.map_cons, List.map_cons, hown]
      exact congrArg _ hentries
    · obtain ⟨hkept, hapart⟩ := turn_apart one model hturn hsorted
      obtain ⟨hentries, hfleet, hchips⟩ :=
        ih (hapart.symm.trans halike) hsorted' (hkept.trans hhandle)
      rw [if_neg hturn]
      refine ⟨?_, hfleet, hchips⟩
      rw [entriesOf_cons, hentry, if_neg hturn]
      exact hentries

/-- At the start nobody has a wiper, on either side. -/
theorem together_alike (model : Model) (chip : Chip) (turns : List Turn) (channel : Channel) :
    let mixed := together model chip turns
    let alone := together model chip (turnsOf channel turns)
    (entriesOf channel mixed.1.1).map Entry.own = alone.1.1.map Entry.own ∧
      mixed.1.2 channel = alone.1.2 channel ∧ Alike channel mixed.2 alone.2 := by
  have hnone : (fun _ => none : Fleet) channel = none := rfl
  simp only [together_eq]
  exact schedule_alike model channel turns (.refl channel chip) Fleet.sorted_none hnone

/-- Whatever the schedule is, a register that is no channel's and not STATUS stays as it is. -/
theorem schedule_frame (model : Model) (turns : List Turn) (chip : Chip) {fleet : Fleet}
    (hsorted : fleet.Sorted) {slot : Fin 16} (hstatus : slot ≠ 5)
    (hslot : ∀ channel : Channel, slot ≠ channel.volatileSlot ∧ slot ≠ channel.nonVolatileSlot ∧
      slot ≠ channel.terminalSlot) :
    (chip.converse ((schedule model turns).run fleet)).2.register slot = chip.register slot := by
  induction turns generalizing chip fleet with
  | nil => rfl
  | cons turn turns ih =>
    obtain ⟨htouched, hsorted'⟩ := touched_turn chip model turn hsorted
    obtain ⟨hvolatile, hstored, hterminal⟩ := hslot turn.channel
    rw [schedule, Chip.converse_mapM_cons]
    exact (ih _ hsorted').trans (htouched.register hvolatile hstored hterminal hstatus)

/-- Two chips that are the same for every channel agree in each of the channels' registers. -/
theorem register_eq_of_alike {one other : Chip} (h : ∀ channel, Alike channel one other)
    {slot : Fin 16} {channel : Channel}
    (hslot : slot = channel.volatileSlot ∨ slot = channel.nonVolatileSlot ∨
      slot = channel.terminalSlot) : one.register slot = other.register slot := by
  rcases hslot with rfl | rfl | rfl
  · exact (h channel).volatile
  · exact (h channel).stored
  · obtain ⟨sibling, hne, hshared⟩ := channel.exists_sibling
    have hnibble := (h sibling).nibble
    rw [← hshared] at hnibble
    exact eq_of_nibbles hne hshared (h channel).nibble hnibble (h channel).rest

/-! ## The result -/

/-- **Channels of one chip do not interfere.** For every model, every content of the registers and
every schedule of turns on a shared bus:

* each channel's entries are, status results apart, those of its own turns taken alone, so are its
  position and mode at the end, and so are its two wiper registers and its terminal bits;
* two schedules in which every channel takes the same turns in the same order end with the same
  registers, but for STATUS. -/
theorem channels_independent (model : Model) (chip : Chip) (turns : List Turn) :
    (∀ channel,
      let mixed := together model chip turns
      let alone := together model chip (turnsOf channel turns)
      (entriesOf channel mixed.1.1).map Entry.own = alone.1.1.map Entry.own ∧
        mixed.1.2 channel = alone.1.2 channel ∧
        mixed.2.register channel.volatileSlot = alone.2.register channel.volatileSlot ∧
        mixed.2.register channel.nonVolatileSlot = alone.2.register channel.nonVolatileSlot ∧
        mixed.2.register channel.terminalSlot &&& channel.terminalMask =
          alone.2.register channel.terminalSlot &&& channel.terminalMask) ∧
    ∀ turns', (∀ channel, turnsOf channel turns' = turnsOf channel turns) → ∀ slot, slot ≠ 5 →
      (together model chip turns').2.register slot =
        (together model chip turns).2.register slot := by
  refine ⟨fun channel => ?_, fun turns' hturns slot hstatus => ?_⟩
  · obtain ⟨hentries, hhandle, halike⟩ := together_alike model chip turns channel
    exact ⟨hentries, hhandle, halike.volatile, halike.stored, halike.nibble⟩
  · by_cases hslot : ∃ channel : Channel, slot = channel.volatileSlot ∨
        slot = channel.nonVolatileSlot ∨ slot = channel.terminalSlot
    · obtain ⟨channel, hslot⟩ := hslot
      refine register_eq_of_alike (fun channel => ?_) hslot
      have halike' := (together_alike model chip turns' channel).2.2
      rw [hturns channel] at halike'
      exact halike'.trans (together_alike model chip turns channel).2.2.symm
    · have hframe (turns : List Turn) :
          (together model chip turns).2.register slot = chip.register slot := by
        rw [together_eq]
        refine schedule_frame model turns chip Fleet.sorted_none hstatus fun channel => ?_
        exact ⟨fun h => hslot ⟨channel, .inl h⟩, fun h => hslot ⟨channel, .inr (.inl h)⟩,
          fun h => hslot ⟨channel, .inr (.inr h)⟩⟩
      exact (hframe turns').trans (hframe turns).symm

/-- Two channels that share a terminal control register change their terminals, once by turns and
once one after the other: neither change is lost. -/
theorem channels_independent_swapped :
    let chip : Chip := ⟨Chip.powerUp, 256⟩
    let start (channel : Channel) : Turn := ⟨channel, .start .volatileOnly 0⟩
    let open_a (channel : Channel) : Turn :=
      ⟨channel, .perform (.setTerminals ⟨channel, true, false, true, true⟩)⟩
    let byTurns := together .mcp4661 chip [start .a, start .b, open_a .b, open_a .a]
    let inARow := together .mcp4661 chip [start .a, open_a .a, start .b, open_a .b]
    byTurns.2.register 4 = inARow.2.register 4 ∧ inARow.2.register 4 = 0x1BB := by
  intro chip start open_a byTurns inARow
  have hturns : ∀ channel, turnsOf channel [start .a, start .b, open_a .b, open_a .a] =
      turnsOf channel [start .a, open_a .a, start .b, open_a .b] := by
    intro channel
    cases channel <;> rfl
  exact ⟨(channels_independent .mcp4661 chip _).2 _ hturns 4 (by decide), by decide +kernel⟩

end WiperDriver.Wiper
