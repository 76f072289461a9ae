import WiperDriver.Proofs.Bus.AllOrNothing
import WiperDriver.Proofs.Wiper.Conversation

/-!
# Wiper operations on a bus that fails cleanly

Over a bus on which every transaction takes place as a whole or not at all, an operation ends as on
the chip itself, or it is refused and has changed neither the wiper nor the chip
(`attempt_of_not_halfWritten`). The one exception is a move that is written to both registers: if
its second write fails, the first has already moved the wiper of the chip. `HalfWritten` is this
ending, and `attempt_of_halfWritten` says what it leaves behind.
-/

namespace WiperDriver.Wiper

open Bus (AllOrNothing Whole Refused ending)

variable {α β σ : Type}

/-- Performs an operation of a wiper over a bus. -/
def attempt (responder : Bus.Responder σ) (operation : Operation) (wiper : Wiper) (state : σ) :
    Outcome Bus.Call Bus.Answer σ (Except Error Result × Wiper) :=
  (operation.perform.run.run wiper).run responder state

/-- The operation was refused and the wiper is as it was. -/
def Stopped (wiper : Wiper) (ended : Except Error α × Wiper) : Prop :=
  Refused ended.1 ∧ ended.2 = wiper

/-! ## Operations that end as on the chip or not at all -/

/-- A register operation after which the wiper may change is whole, if its errors are passed on and
leave the wiper alone. -/
theorem whole_access {program : Registers.Program α} (h : Whole Refused program.run)
    {wiper : Wiper} {next : Except Error α → Dialogue Bus.Call Bus.Answer (Except Error β × Wiper)}
    (hok : ∀ value, (next (.ok value)).Quiet)
    (herror : ∀ error, next (.error error) = .done (.error error, wiper)) :
    Whole (Stopped wiper) (program.run >>= next) := by
  refine h.bind_quiet (fun result => ?_) fun result hrefused chip => ?_
  · cases result with
    | ok value => exact hok value
    | error error =>
      rw [herror error]
      trivial
  · obtain ⟨error, rfl⟩ := hrefused
    rw [herror error]
    exact ⟨⟨error, rfl⟩, rfl⟩

/-- The same if the wiper does not change at all. -/
theorem whole_access_done {program : Registers.Program α} (h : Whole Refused program.run)
    (wiper : Wiper) :
    Whole (Stopped wiper) (program.run >>= fun result => .done (result, wiper)) :=
  whole_access h (fun _ => trivial) fun _ => rfl

/-- Wrapping up the value of an operation takes nothing from it. -/
theorem whole_wrap {program : Program α} {wiper : Wiper}
    (h : Whole (Stopped wiper) (program.run.run wiper)) (f : α → β) :
    Whole (Stopped wiper) ((f <$> program).run.run wiper) := by
  rw [run_wrap, map_eq_pure_bind]
  refine h.bind_quiet (fun _ => trivial) fun ended hstopped _ => ?_
  obtain ⟨⟨error, herror⟩, hwiper⟩ := hstopped
  exact ⟨⟨error, congrArg (Except.map f) herror⟩, hwiper⟩

theorem whole_update (wiper : Wiper) : Whole (Stopped wiper) (update.run.run wiper) := by
  rw [run_update]
  exact whole_access (Registers.whole_read _) (fun _ => trivial) fun _ => rfl

/-- A move of one register is one write. -/
theorem whole_moveTo {wiper : Wiper} (h : wiper.mode ≠ .volatileAndNonVolatile) (target : Int32) :
    Whole (Stopped wiper) ((moveTo target).run.run wiper) := by
  rw [run_moveTo]
  cases hmode : wiper.mode with
  | volatileOnly => exact whole_access (Registers.whole_write _ _) (fun _ => trivial) fun _ => rfl
  | nonVolatileOnly => exact whole_access_done (Registers.whole_write _ _) wiper
  | volatileAndNonVolatile => exact absurd hmode h

/-- A step is one write or one burst. -/
theorem whole_step (direction : Direction) (steps : UInt32) (wiper : Wiper) :
    Whole (Stopped wiper) ((step direction steps).run.run wiper) := by
  rw [run_step]
  by_cases hmode : wiper.mode ≠ .volatileOnly
  · rw [if_pos hmode]
    exact .quiet trivial
  rw [if_neg hmode]
  have hone : wiper.mode ≠ .volatileAndNonVolatile := fun h => hmode (by rw [h]; decide)
  split
  · exact .quiet trivial
  simp only
  split
  · exact (whole_moveTo hone _).say _
  · refine Whole.say ?_ _
    exact whole_access (Registers.whole_pulse _ _ _) (fun _ => trivial) fun _ => rfl

theorem whole_setMode (mode : Mode) (wiper : Wiper) :
    Whole (Stopped wiper) ((setMode mode).run.run wiper) := by
  rw [run_setMode]
  split <;> exact .quiet trivial

theorem whole_nonVolatileValue (wiper : Wiper) :
    Whole (Stopped wiper) (nonVolatileValue.run.run wiper) := by
  rw [run_nonVolatileValue]
  split
  · exact whole_access_done (Registers.whole_read _) wiper
  · exact .quiet trivial

theorem whole_status (wiper : Wiper) : Whole (Stopped wiper) (status.run.run wiper) := by
  rw [run_status]
  exact whole_access Registers.whole_status (fun _ => trivial) fun _ => rfl

theorem whole_setTerminals (setting : Terminals) (wiper : Wiper) :
    Whole (Stopped wiper) ((setTerminals setting).run.run wiper) := by
  rw [run_setTerminals]
  split
  · exact whole_access_done (Registers.whole_setTerminals setting) wiper
  · exact .quiet trivial

theorem whole_setLock (locked : Bool) (wiper : Wiper) :
    Whole (Stopped wiper) ((setLock locked).run.run wiper) := by
  rw [run_setLock]
  split
  · exact whole_access_done (Registers.whole_pulse _ _ _) wiper
  · exact .quiet trivial

theorem whole_setProtection (enabled : Bool) (wiper : Wiper) :
    Whole (Stopped wiper) ((setProtection enabled).run.run wiper) := by
  rw [run_setProtection]
  split
  · exact whole_access_done (Registers.whole_pulse _ _ _) wiper
  · exact .quiet trivial

/-- A move that is written to both registers. -/
def WritesBoth (wiper : Wiper) (operation : Operation) : Prop :=
  wiper.mode = .volatileAndNonVolatile ∧ ∃ target, operation = .moveTo target

/-- **Every operation but a move of both registers is whole.** -/
theorem whole_perform {wiper : Wiper} {operation : Operation} (h : ¬ WritesBoth wiper operation) :
    Whole (Stopped wiper) (operation.perform.run.run wiper) := by
  cases operation with
  | update => exact whole_wrap (whole_update wiper) _
  | moveTo target => exact whole_wrap (whole_moveTo (fun hmode => h ⟨hmode, target, rfl⟩) target) _
  | increase | increaseBy steps => exact whole_wrap (whole_step .up _ wiper) _
  | decrease | decreaseBy steps => exact whole_wrap (whole_step .down _ wiper) _
  | setMode mode => exact whole_wrap (whole_setMode mode wiper) _
  | nonVolatileValue => exact whole_wrap (whole_nonVolatileValue wiper) _
  | status => exact whole_wrap (whole_status wiper) _
  | terminals => exact whole_wrap (whole_access_done (Registers.whole_terminals _) wiper) _
  | setTerminals setting => exact whole_wrap (whole_setTerminals setting wiper) _
  | setLock locked => exact whole_wrap (whole_setLock locked wiper) _
  | setProtection enabled => exact whole_wrap (whole_setProtection enabled wiper) _

/-! ## Moves of both registers -/

variable {responder : Bus.Responder σ} {chip : σ → Chip}

theorem wiperAddress_le (channel : Channel) (nonVolatile : Bool) :
    channel.wiperAddress nonVolatile ≤ Command.maxAddress := by
  cases nonVolatile with
  | false => exact channel.volatileAddress_le
  | true => exact channel.nonVolatileAddress_le

/-- Writing a position of a model to a wiper register is one transaction. -/
theorem run_setValue {position : UInt16} (h : position ≤ Registers.maxWord) (channel : Channel)
    (nonVolatile : Bool) :
    ∃ line bytes, (Registers.setValue channel position nonVolatile).run =
      .say line (.ask (.write bytes) fun answer => .done (answer.mapError .io)) := by
  show ∃ line bytes, (Registers.write (channel.wiperAddress nonVolatile) position).run = _
  rw [Registers.run_write, if_pos h, Command.encode_of_le (wiperAddress_le channel nonVolatile)]
  exact ⟨_, _, rfl⟩

/-- How a dialogue ends that writes a wiper register and goes on: the one transaction of the write
sets the register, or it is refused and changes nothing. -/
theorem setValue_bind_cases (hbus : AllOrNothing responder chip) {position : UInt16}
    (h : position ≤ Registers.maxWord) (channel : Channel) (nonVolatile : Bool)
    (next : Except Error Unit → Dialogue Bus.Call Bus.Answer α) (state : σ) :
    let outcome :=
      ((Registers.setValue channel position nonVolatile).run >>= next).run responder state
    ∃ result later, outcome.value = ((next result).run responder later).value ∧
      outcome.state = ((next result).run responder later).state ∧
      outcome.calls.length = ((next result).run responder later).calls.length + 1 ∧
      (result = .ok () ∧ chip later =
          (chip state).setRegister (Chip.slot (channel.wiperAddress nonVolatile)) position ∨
        (∃ error, result = .error error) ∧ chip later = chip state) := by
  have hcalls : ((Registers.setValue channel position nonVolatile).run.run responder
      state).calls.length = 1 := by
    obtain ⟨line, bytes, hrun⟩ := run_setValue h channel nonVolatile
    rw [hrun]
    rfl
  have hwhole := (Registers.whole_write (channel.wiperAddress nonVolatile) position).ends hbus state
  rw [Registers.converse_write, if_pos h, if_pos (wiperAddress_le channel nonVolatile)] at hwhole
  intro outcome
  have houtcome : outcome = _ := Dialogue.run_bind responder state _ next
  let first := (Registers.setValue channel position nonVolatile).run.run responder state
  refine ⟨first.value, first.state, by rw [houtcome], by rw [houtcome], ?_, ?_⟩
  · rw [houtcome, Outcome.calls, List.filterMap_append, List.length_append, Nat.add_comm]
    exact congrArg (_ + ·) hcalls
  · rcases hwhole with hsame | hrefused
    · exact .inl (Prod.mk.inj hsame)
    · exact .inr hrefused

/-- A move of both registers has three endings: both are written; nothing is; or only the volatile
register is, and then the operation is refused at its second transaction. -/
theorem moveTo_both_cases (hbus : AllOrNothing responder chip) {wiper : Wiper}
    (hmode : wiper.mode = .volatileAndNonVolatile) (target : Int32) (state : σ) :
    let outcome := ((moveTo target).run.run wiper).run responder state
    let written := (chip state).setRegister wiper.channel.volatileSlot (wiper.clamp target)
    outcome.value = (.ok (), { wiper with position := wiper.clamp target }) ∧
        chip outcome.state =
          written.setRegister wiper.channel.nonVolatileSlot (wiper.clamp target) ∨
      Stopped wiper outcome.value ∧ chip outcome.state = chip state ∧ outcome.calls.length = 1 ∨
      Stopped wiper outcome.value ∧ chip outcome.state = written ∧ outcome.calls.length = 2 := by
  have hfits := wiper.clamp_le_maxWord target
  intro outcome written
  have hrun : outcome = _ :=
    congrArg (Dialogue.run responder · state) (run_moveTo target wiper)
  simp only [hmode] at hrun
  obtain ⟨first, between, hvalue, hstate, hcalls, hfirst⟩ :=
    setValue_bind_cases hbus hfits wiper.channel false _ state
  rw [← hrun] at hvalue hstate hcalls
  -- The EEPROM register is written only if the volatile one was, from the chip that this left.
  rcases hfirst with ⟨rfl, hbetween⟩ | ⟨⟨error, rfl⟩, hbetween⟩
  · obtain ⟨second, after, hvalue', hstate', hcalls', hsecond⟩ :=
      setValue_bind_cases hbus hfits wiper.channel true _ between
    rw [hvalue'] at hvalue
    rw [hstate'] at hstate
    rw [hcalls'] at hcalls
    rw [hbetween] at hsecond
    rcases hsecond with ⟨rfl, hafter⟩ | ⟨⟨error, rfl⟩, hafter⟩
    · left
      rw [hvalue, hstate, hmode]
      exact ⟨rfl, hafter⟩
    · right; right
      rw [hvalue, hstate, hcalls]
      exact ⟨⟨⟨error, rfl⟩, rfl⟩, hafter, rfl⟩
  · right; left
    rw [hvalue, hstate, hcalls]
    exact ⟨⟨⟨error, rfl⟩, rfl⟩, hbetween, rfl⟩

/-! ## Half-written moves -/

/-- The ending of a move of both registers whose second transaction has failed. -/
structure HalfWritten (wiper : Wiper) (operation : Operation)
    (outcome : Outcome Bus.Call Bus.Answer σ (Except Error Result × Wiper)) : Prop where
  both : WritesBoth wiper operation
  calls : outcome.calls.length = 2
  refused : Refused outcome.value.1

/-- Performing a move runs the move and wraps up its value. -/
theorem attempt_moveTo (responder : Bus.Responder σ) (target : Int32) (wiper : Wiper) (state : σ) :
    let moved := ((moveTo target).run.run wiper).run responder state
    let outcome := attempt responder (.moveTo target) wiper state
    outcome.value = (moved.value.1.map fun _ => .done, moved.value.2) ∧
      outcome.state = moved.state ∧ outcome.calls = moved.calls := by
  have hwrap := run_wrap (fun _ => Result.done) (moveTo target) wiper
  have hrun : attempt responder (.moveTo target) wiper state = _ :=
    congrArg (Dialogue.run responder · state) hwrap
  simp only [map_eq_pure_bind, Dialogue.run_bind] at hrun
  simp only [hrun, Outcome.calls]
  exact ⟨rfl, rfl, congrArg _ (List.append_nil _)⟩

/-- **A half-written move** has moved the wiper of the chip to its target and left the EEPROM copy
and the known position as they were. -/
theorem attempt_of_halfWritten (hbus : AllOrNothing responder chip) {wiper : Wiper}
    {operation : Operation} {state : σ}
    (h : HalfWritten wiper operation (attempt responder operation wiper state)) :
    ∃ target, operation = .moveTo target ∧
      (attempt responder operation wiper state).value.2 = wiper ∧
      chip (attempt responder operation wiper state).state =
        (chip state).setRegister wiper.channel.volatileSlot (wiper.clamp target) := by
  obtain ⟨⟨hmode, target, rfl⟩, hcalls, ⟨error, herror⟩⟩ := h
  obtain ⟨hvalue, hstate, hsame⟩ := attempt_moveTo responder target wiper state
  rw [hvalue] at herror
  rw [hsame] at hcalls
  refine ⟨target, rfl, ?_⟩
  rw [hvalue, hstate]
  rcases moveTo_both_cases hbus hmode target state with
    ⟨hdone, _⟩ | ⟨_, _, hone⟩ | ⟨⟨_, hwiper⟩, hchip, _⟩
  · rw [hdone] at herror
    cases herror
  · omega
  · exact ⟨hwiper, hchip⟩

/-- **Every other operation ends as on the chip itself or changes nothing.** -/
theorem attempt_of_not_halfWritten (hbus : AllOrNothing responder chip) {wiper : Wiper}
    {operation : Operation} {state : σ}
    (h : ¬ HalfWritten wiper operation (attempt responder operation wiper state)) :
    let outcome := attempt responder operation wiper state
    (outcome.value, chip outcome.state) =
        (chip state).converse (operation.perform.run.run wiper) ∨
      Stopped wiper outcome.value ∧ chip outcome.state = chip state := by
  by_cases hboth : WritesBoth wiper operation
  · obtain ⟨hmode, target, rfl⟩ := hboth
    obtain ⟨hvalue, hstate, hcalls⟩ := attempt_moveTo responder target wiper state
    rcases moveTo_both_cases hbus hmode target state with
      ⟨hdone, hchip⟩ | ⟨⟨⟨error, herror⟩, hwiper⟩, hchip, _⟩ | ⟨⟨⟨error, herror⟩, _⟩, _, htwo⟩
    · left
      rw [hvalue, hstate, hdone, hchip]
      unfold Operation.perform
      rw [converse_wrap, converse_moveTo, hmode]
    · right
      rw [hvalue, hstate, herror]
      exact ⟨⟨⟨error, rfl⟩, hwiper⟩, hchip⟩
    · refine absurd ⟨⟨hmode, target, rfl⟩, hcalls ▸ htwo, error, ?_⟩ h
      rw [hvalue, herror]
      rfl
  · exact (whole_perform hboth).ends hbus state

end WiperDriver.Wiper
