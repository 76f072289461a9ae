import WiperDriver.Proofs.Terminals
import WiperDriver.Proofs.Wiper.Effects
import WiperDriver.Proofs.Wiper.Task

/-!
# Channels do not meet

`Alike` says that two chips are the same for one channel. Two facts about it carry everything that
is said about several channels of one chip: what another channel does leaves the chip alike
(`Touched.alike`), and a task of the channel itself gives the same on chips that are alike, and
leaves them alike (`Alike.run`).

The terminal control register is where this is not plain, because a channel shares it with its
sibling and writes back what it has read. The own nibble is alike at all times. Whether a merged
word fits the register depends on the bits above both nibbles, which never change; and if it does
not fit, nobody can write the register at all, so then the whole words are equal and so are the
words that the refusals name.
-/

namespace WiperDriver.Wiper

/-- Two chips are the same for a channel: in the registers of its wiper and in its terminals, and in
which words are too wide for the terminal control register. -/
structure Alike (channel : Channel) (one other : Chip) : Prop where
  limit : one.limit = other.limit
  volatile : one.register channel.volatileSlot = other.register channel.volatileSlot
  stored : one.register channel.nonVolatileSlot = other.register channel.nonVolatileSlot
  nibble : one.register channel.terminalSlot &&& channel.terminalMask =
    other.register channel.terminalSlot &&& channel.terminalMask
  rest : one.register channel.terminalSlot &&& Channel.terminalRest =
    other.register channel.terminalSlot &&& Channel.terminalRest
  narrow : one.register channel.terminalSlot = other.register channel.terminalSlot ∨
    one.register channel.terminalSlot ≤ Registers.maxWord

section

variable {channel : Channel} {one other third : Chip}

theorem Alike.refl (channel : Channel) (chip : Chip) : Alike channel chip chip :=
  ⟨rfl, rfl, rfl, rfl, rfl, .inl rfl⟩

/-- A word fits the terminal control register on both of two chips that are alike, or on neither. -/
theorem Alike.fits_iff (h : Alike channel one other) :
    one.register channel.terminalSlot ≤ Registers.maxWord ↔
      other.register channel.terminalSlot ≤ Registers.maxWord :=
  Terminals.le_maxWord_congr h.rest

theorem Alike.symm (h : Alike channel one other) : Alike channel other one :=
  ⟨h.limit.symm, h.volatile.symm, h.stored.symm, h.nibble.symm, h.rest.symm,
    h.narrow.imp Eq.symm h.fits_iff.1⟩

theorem Alike.trans (h : Alike channel one other) (h' : Alike channel other third) :
    Alike channel one third := by
  refine ⟨h.limit.trans h'.limit, h.volatile.trans h'.volatile, h.stored.trans h'.stored,
    h.nibble.trans h'.nibble, h.rest.trans h'.rest, ?_⟩
  rcases h.narrow with heq | hfits
  · rw [heq]
    exact h'.narrow
  · exact .inr hfits

/-! ## Other channels -/

/-- A register that is none of the channel's is of no concern to it. -/
theorem Alike.apart {slot : Fin 16} (hvolatile : slot ≠ channel.volatileSlot)
    (hstored : slot ≠ channel.nonVolatileSlot) (hterminal : slot ≠ channel.terminalSlot)
    (chip : Chip) (value : UInt16) : Alike channel chip (chip.setRegister slot value) := by
  have hkept := Chip.register_setRegister_of_ne hterminal chip value
  exact ⟨rfl, (Chip.register_setRegister_of_ne hvolatile chip value).symm,
    (Chip.register_setRegister_of_ne hstored chip value).symm, by rw [hkept], by rw [hkept],
    .inl hkept.symm⟩

/-- The STATUS register is no channel's. -/
theorem Alike.status (channel : Channel) (chip : Chip) (word : UInt16) :
    Alike channel chip (chip.setRegister 5 word) :=
  .apart channel.status_ne_volatileSlot channel.status_ne_nonVolatileSlot
    channel.status_ne_terminalSlot chip word

/-- A setting of another channel's terminals is none of the channel's, even in the same register. -/
theorem Alike.terminals {setting : Terminals} (hne : setting.channel ≠ channel) {chip : Chip}
    (hfits : setting.applyTo (chip.register setting.channel.terminalSlot) ≤ Registers.maxWord) :
    Alike channel chip
      (chip.setRegister setting.channel.terminalSlot
        (setting.applyTo (chip.register setting.channel.terminalSlot))) := by
  have hvolatile := setting.channel.terminalSlot_ne_volatileSlot channel
  have hstored := setting.channel.terminalSlot_ne_nonVolatileSlot channel
  by_cases hshared : setting.channel.terminalSlot = channel.terminalSlot
  · have hdisjoint := Channel.terminalMask_disjoint hne hshared
    rw [hshared] at hvolatile hstored hfits ⊢
    refine ⟨rfl, (Chip.register_setRegister_of_ne hvolatile chip _).symm,
      (Chip.register_setRegister_of_ne hstored chip _).symm, ?_, ?_, ?_⟩
    · rw [Chip.register_setRegister_self, Terminals.applyTo_and_of_disjoint hdisjoint]
    · rw [Chip.register_setRegister_self,
        Terminals.applyTo_and_of_disjoint setting.channel.terminalMask_and_rest]
    · exact .inr ((Terminals.applyTo_le_maxWord setting _).1 hfits)
  · exact .apart hvolatile hstored hshared chip _

/-- **What another channel does is of no concern to the channel.** -/
theorem Touched.alike {busy : Channel} {chip after : Chip} (h : Touched busy chip after)
    (hne : busy ≠ channel) : Alike channel chip after := by
  induction h with
  | kept => exact .refl channel chip
  | volatile _ position ih =>
    exact ih.trans (.apart (Channel.volatileSlot_ne hne)
      (channel.nonVolatileSlot_ne_volatileSlot busy).symm
      (channel.terminalSlot_ne_volatileSlot busy).symm _ position)
  | stored _ position ih =>
    exact ih.trans (.apart (busy.nonVolatileSlot_ne_volatileSlot channel)
      (Channel.nonVolatileSlot_ne hne) (channel.terminalSlot_ne_nonVolatileSlot busy).symm _
      position)
  | status _ word ih => exact ih.trans (.status channel _ word)
  | terminals _ setting hchannel hfits ih =>
    subst hchannel
    exact ih.trans (.terminals hne hfits)

/-! ## The channel itself -/

/-- Chips that are alike stay so if one value is written to the volatile register of both. -/
theorem Alike.setVolatile (h : Alike channel one other) (position : UInt16) :
    Alike channel (one.setRegister channel.volatileSlot position)
      (other.setRegister channel.volatileSlot position) := by
  have hstored := (channel.nonVolatileSlot_ne_volatileSlot channel).symm
  have hterminal := (channel.terminalSlot_ne_volatileSlot channel).symm
  refine ⟨h.limit, ?_, ?_, ?_, ?_, ?_⟩
  · rw [Chip.register_setRegister_self, Chip.register_setRegister_self]
  all_goals simp only [Chip.register_setRegister_of_ne hstored,
    Chip.register_setRegister_of_ne hterminal]
  · exact h.stored
  · exact h.nibble
  · exact h.rest
  · exact h.narrow

/-- The same for the EEPROM register. -/
theorem Alike.setStored (h : Alike channel one other) (position : UInt16) :
    Alike channel (one.setRegister channel.nonVolatileSlot position)
      (other.setRegister channel.nonVolatileSlot position) := by
  have hvolatile := channel.nonVolatileSlot_ne_volatileSlot channel
  have hterminal := (channel.terminalSlot_ne_nonVolatileSlot channel).symm
  refine ⟨h.limit, ?_, ?_, ?_, ?_, ?_⟩
  · rw [Chip.register_setRegister_of_ne hvolatile, Chip.register_setRegister_of_ne hvolatile]
    exact h.volatile
  · rw [Chip.register_setRegister_self, Chip.register_setRegister_self]
  all_goals simp only [Chip.register_setRegister_of_ne hterminal]
  · exact h.nibble
  · exact h.rest
  · exact h.narrow

/-- Whatever is written to STATUS. -/
theorem Alike.setStatus (h : Alike channel one other) (word word' : UInt16) :
    Alike channel (one.setRegister 5 word) (other.setRegister 5 word') :=
  (Alike.status channel one word).symm.trans (h.trans (.status channel other word'))

/-- One setting is merged into the words of both chips, or it is refused on both in the same
words. -/
theorem Alike.mergeTerminals (h : Alike channel one other) {setting : Terminals}
    (hchannel : setting.channel = channel) :
    (one.converse (Registers.setTerminals setting).run).1 =
        (other.converse (Registers.setTerminals setting).run).1 ∧
      Alike channel (one.converse (Registers.setTerminals setting).run).2
        (other.converse (Registers.setTerminals setting).run).2 := by
  subst hchannel
  rw [Registers.converse_setTerminals, Registers.converse_setTerminals]
  simp only [Terminals.applyTo_le_maxWord]
  by_cases hfits : one.register setting.channel.terminalSlot ≤ Registers.maxWord
  · rw [if_pos hfits, if_pos (h.fits_iff.1 hfits)]
    have hvolatile := setting.channel.terminalSlot_ne_volatileSlot setting.channel
    have hstored := setting.channel.terminalSlot_ne_nonVolatileSlot setting.channel
    refine ⟨rfl, h.limit, ?_, ?_, ?_, ?_, ?_⟩
    · rw [Chip.register_setRegister_of_ne hvolatile, Chip.register_setRegister_of_ne hvolatile]
      exact h.volatile
    · rw [Chip.register_setRegister_of_ne hstored, Chip.register_setRegister_of_ne hstored]
      exact h.stored
    all_goals rw [Chip.register_setRegister_self, Chip.register_setRegister_self]
    · exact Terminals.applyTo_and_congr h.nibble setting
    · exact Terminals.applyTo_and_congr h.rest setting
    · exact .inr ((Terminals.applyTo_le_maxWord setting _).2 hfits)
  · have hsame := h.narrow.resolve_right hfits
    rw [if_neg hfits, if_neg (hfits ∘ h.fits_iff.2), hsame]
    exact ⟨rfl, h⟩

end

/-- Two ends of one thing on two chips: the same value, and chips that are alike. -/
structure SameEnd {α : Type} (channel : Channel) (one other : α × Chip) : Prop where
  value : one.1 = other.1
  alike : Alike channel one.2 other.2

/-- What does the same to a value is done on both sides. -/
theorem SameEnd.map {α β : Type} {channel : Channel} {one other : α × Chip}
    (h : SameEnd channel one other) (f : α → β) :
    SameEnd channel (f one.1, one.2) (f other.1, other.2) :=
  ⟨congrArg f h.value, h.alike⟩

section

variable {wiper : Wiper} {one other : Chip}

theorem Alike.moveTo (h : Alike wiper.channel one other) (target : Int32) :
    SameEnd wiper.channel (one.converse ((moveTo target).run.run wiper))
      (other.converse ((moveTo target).run.run wiper)) := by
  rw [converse_moveTo, converse_moveTo]
  cases wiper.mode with
  | volatileOnly => exact ⟨rfl, h.setVolatile _⟩
  | nonVolatileOnly => exact ⟨rfl, h.setStored _⟩
  | volatileAndNonVolatile => exact ⟨rfl, (h.setVolatile _).setStored _⟩

theorem Alike.step (h : Alike wiper.channel one other) (direction : Direction) (steps : UInt32) :
    SameEnd wiper.channel (one.converse ((step direction steps).run.run wiper))
      (other.converse ((step direction steps).run.run wiper)) := by
  rw [converse_step, converse_step]
  simp only [h.limit, h.volatile]
  split
  · exact ⟨rfl, h⟩
  split
  · exact ⟨rfl, h⟩
  split
  · exact ⟨rfl, h.setVolatile _⟩
  · exact ⟨rfl, h.setVolatile _⟩

theorem Alike.setTerminals (h : Alike wiper.channel one other) (setting : Terminals) :
    SameEnd wiper.channel (one.converse ((Wiper.setTerminals setting).run.run wiper))
      (other.converse ((Wiper.setTerminals setting).run.run wiper)) := by
  rw [run_setTerminals]
  split
  · next hchannel =>
    obtain ⟨hvalue, halike⟩ := h.mergeTerminals hchannel
    rw [Chip.converse_bind, Chip.converse_bind, hvalue]
    exact ⟨rfl, halike⟩
  · exact ⟨rfl, h⟩

/-- **An operation that does not ask for the status ends the same on chips that are alike.** -/
theorem Alike.perform (h : Alike wiper.channel one other) {operation : Operation}
    (hoperation : operation ≠ .status) :
    SameEnd wiper.channel (one.converse (operation.perform.run.run wiper))
      (other.converse (operation.perform.run.run wiper)) := by
  cases operation <;> simp only [Operation.perform, converse_wrap]
  case status => exact absurd rfl hoperation
  case increase | increaseBy => exact (h.step .up _).map fun ended => (ended.1.map _, ended.2)
  case decrease | decreaseBy => exact (h.step .down _).map fun ended => (ended.1.map _, ended.2)
  case moveTo target => exact (h.moveTo target).map fun ended => (ended.1.map _, ended.2)
  case setTerminals setting =>
    exact (h.setTerminals setting).map fun ended => (ended.1.map _, ended.2)
  case update =>
    rw [converse_update, converse_update, h.volatile]
    exact ⟨rfl, h⟩
  case setMode mode =>
    rw [converse_setMode, converse_setMode]
    split <;> exact ⟨rfl, h⟩
  case nonVolatileValue =>
    rw [converse_nonVolatileValue, converse_nonVolatileValue, h.stored]
    exact ⟨rfl, h⟩
  case terminals =>
    rw [converse_terminals, converse_terminals, Terminals.ofWord_congr h.nibble]
    exact ⟨rfl, h⟩
  case setLock locked =>
    rw [converse_setLock, converse_setLock]
    split
    · exact ⟨rfl, h.setStatus _ _⟩
    · exact ⟨rfl, h⟩
  case setProtection enabled =>
    rw [converse_setProtection, converse_setProtection]
    split
    · exact ⟨rfl, h.setStatus _ _⟩
    · exact ⟨rfl, h⟩

end

/-! ## Tasks -/

/-- The result of a task as far as it is the channel's own. What the chip reports about itself is
not: the locks are shared by two channels, and write protection and EEPROM activity by all. -/
def Task.own : Task → Option (Except Error Result) → Option (Except Error Result)
  | .perform .status, _ => none
  | _, result => result

section

variable {channel : Channel} {one other : Chip} {handle : Option Wiper}

theorem Alike.start (h : Alike channel one other) (model : Model) (mode : Mode) (initial : Int32) :
    SameEnd channel (one.converse (start model channel mode initial).run)
      (other.converse (start model channel mode initial).run) := by
  rw [converse_start, converse_start, h.volatile]
  split
  · exact ⟨rfl, h⟩
  · exact ⟨rfl, h⟩
  · simp only
    split
    · exact ⟨rfl, h⟩
    · exact ⟨rfl, h.setVolatile _⟩

/-- **A task ends the same on chips that are alike, but for the status.** -/
theorem Alike.run (h : Alike channel one other)
    (hhandle : ∀ wiper ∈ handle, wiper.channel = channel) (model : Model) (task : Task) :
    let ended := one.converse (task.run model channel handle)
    let ended' := other.converse (task.run model channel handle)
    task.own ended.1.1 = task.own ended'.1.1 ∧ ended.1.2 = ended'.1.2 ∧
      Alike channel ended.2 ended'.2 := by
  cases task with
  | start mode initial =>
    obtain ⟨hvalue, halike⟩ := h.start model mode initial
    rw [converse_task_start, converse_task_start]
    generalize one.converse (Wiper.start model channel mode initial).run = ended at hvalue halike
    generalize other.converse (Wiper.start model channel mode initial).run = ended' at hvalue halike
    obtain ⟨result, after⟩ := ended
    obtain ⟨result', after'⟩ := ended'
    cases hvalue
    cases result with
    | error error => exact ⟨rfl, rfl, halike⟩
    | ok wiper => exact ⟨rfl, rfl, halike⟩
  | perform operation =>
    cases handle with
    | none => exact ⟨rfl, rfl, h⟩
    | some wiper =>
      obtain rfl := hhandle wiper rfl
      rw [converse_task_perform, converse_task_perform]
      by_cases hoperation : operation = .status
      · subst hoperation
        unfold Operation.perform
        rw [converse_wrap, converse_wrap, converse_status, converse_status]
        exact ⟨rfl, rfl, h⟩
      · obtain ⟨hvalue, halike⟩ := h.perform hoperation
        simp only [hvalue]
        exact ⟨trivial, trivial, halike⟩

/-- What a task of a channel writes to, and whose wiper it leaves under control. -/
theorem touched_run (hhandle : ∀ wiper ∈ handle, wiper.channel = channel) (model : Model)
    (task : Task) (chip : Chip) :
    let ended := chip.converse (task.run model channel handle)
    Touched channel chip ended.2 ∧ ∀ wiper ∈ ended.1.2, wiper.channel = channel := by
  cases task with
  | start mode initial =>
    have hstart := touched_start chip model channel mode initial
    rw [converse_task_start]
    revert hstart
    rcases chip.converse (Wiper.start model channel mode initial).run with ⟨_ | wiper, _⟩
    · rintro ⟨htouched, -⟩
      exact ⟨htouched, nofun⟩
    · rintro ⟨htouched, hwiper⟩
      refine ⟨htouched, fun found hfound => ?_⟩
      cases hfound
      exact hwiper wiper rfl
  | perform operation =>
    cases handle with
    | none => exact ⟨.kept, hhandle⟩
    | some wiper =>
      obtain rfl := hhandle wiper rfl
      obtain ⟨hwiper, htouched, -⟩ := affects_perform chip operation wiper
      rw [converse_task_perform]
      refine ⟨htouched, fun found hfound => ?_⟩
      cases hfound
      exact (congrArg Wiper.channel hwiper).trans rfl

end

end WiperDriver.Wiper
