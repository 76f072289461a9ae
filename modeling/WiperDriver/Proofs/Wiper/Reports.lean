import WiperDriver.Proofs.Registers.Traces
import WiperDriver.Proofs.Wiper.Strategy

/-!
# What wipers report

Everything a wiper asks of the bus it asks through register operations, so its log is as faithful as
theirs (`truthful_perform`, `truthful_start`). What it adds are remarks of its own. A step in the
mode that pulses are for announces, before it sends anything, which way it takes and where it will
end, unless there is nothing to do (`remarked_step`, `unremarked_step`); a status that is refused
is warned about (`warned_status`).
-/

namespace WiperDriver.Wiper

open Log (Line Truthful Warns refused?)
open Registers (truthful_read truthful_write truthful_pulse)

variable {α β σ : Type} {due : Prop} {wiper : Wiper} {direction : Direction} {steps : UInt32}

/-! ## Register traffic -/

/-- An access to the registers is reported as the registers report it. -/
theorem truthful_access {program : Registers.Program α} (h : Truthful due program.run)
    (wiper : Wiper) : Truthful due (program.run >>= fun result => .done (result, wiper)) :=
  h.bind fun _ => .done _

/-- So is one that only takes place if the chip has EEPROM. -/
theorem truthful_guarded {program : Registers.Program α} (h : Truthful due program.run)
    (wiper : Wiper) :
    Truthful due (match wiper.model.checkEeprom with
      | .ok () => program.run >>= fun result => .done (result, wiper)
      | .error error => .done (.error error, wiper)) := by
  cases wiper.model.checkEeprom with
  | ok _ => exact truthful_access h wiper
  | error error => exact .done _

theorem truthful_update (wiper : Wiper) : Truthful due (update.run.run wiper) := by
  rw [run_update]
  refine (truthful_read _).bind fun result => ?_
  cases result <;> exact .done _

theorem truthful_moveTo (value : Int32) (wiper : Wiper) :
    Truthful due ((moveTo value).run.run wiper) := by
  rw [run_moveTo]
  cases wiper.mode with
  | volatileOnly =>
    refine (truthful_write _ _).bind fun result => ?_
    cases result <;> exact .done _
  | nonVolatileOnly => exact truthful_access (truthful_write _ _) wiper
  | volatileAndNonVolatile =>
    refine (truthful_write _ _).bind fun result => ?_
    cases result with
    | error error => exact .done _
    | ok _ =>
      refine (truthful_write _ _).bind fun result => ?_
      cases result <;> exact .done _

theorem truthful_step (direction : Direction) (steps : UInt32) (wiper : Wiper) :
    Truthful due ((step direction steps).run.run wiper) := by
  rw [run_step]
  split
  · exact .done _
  · split
    · exact .done _
    · simp only
      split
      · exact (truthful_moveTo _ wiper).say nofun nofun
      · refine ((truthful_pulse _ _ _).bind fun result => ?_).say nofun nofun
        cases result <;> exact .done _

theorem truthful_setMode (mode : Mode) (wiper : Wiper) :
    Truthful due ((setMode mode).run.run wiper) := by
  rw [run_setMode]
  cases wiper.model.checkMode mode <;> exact .done _

theorem truthful_status (hdue : due) (wiper : Wiper) : Truthful due (status.run.run wiper) := by
  rw [run_status]
  exact (Registers.truthful_status hdue).bind fun _ => .done _

theorem truthful_setTerminals (setting : Terminals) (wiper : Wiper) :
    Truthful due ((setTerminals setting).run.run wiper) := by
  rw [run_setTerminals]
  split
  · exact truthful_access (Registers.truthful_setTerminals setting) wiper
  · exact .done _

/-- Taking control is reported once it has been taken. -/
theorem truthful_start (model : Model) (channel : Channel) (mode : Mode) (initial : Int32) :
    Truthful due (start model channel mode initial).run := by
  rw [run_start]
  cases model.checkChannel channel with
  | error error => exact .done _
  | ok _ =>
    cases model.checkMode mode with
    | error error => exact .done _
    | ok _ =>
      simp only
      split
      · refine (truthful_read _).bind fun result => ?_
        cases result with
        | ok value => exact .say (.done _) nofun nofun
        | error error => exact .done _
      · refine (truthful_write _ _).bind fun result => ?_
        cases result with
        | ok _ => exact .say (.done _) nofun nofun
        | error error => exact .done _

/-- Wrapping up a result changes nothing of what is said. -/
theorem truthful_wrap {program : Program α} (h : Truthful due (program.run.run wiper))
    (f : α → β) : Truthful due ((f <$> program).run.run wiper) := by
  rw [run_wrap]
  exact h.map _

/-- **What a wiper does on the bus is all in the log**, and nothing else is. -/
theorem truthful_perform (operation : Operation) (wiper : Wiper) :
    Truthful (operation = .status) (operation.perform.run.run wiper) := by
  cases operation with
  | update => exact truthful_wrap (truthful_update wiper) _
  | moveTo target => exact truthful_wrap (truthful_moveTo target wiper) _
  | increase => exact truthful_wrap (truthful_step .up 1 wiper) _
  | decrease => exact truthful_wrap (truthful_step .down 1 wiper) _
  | increaseBy steps => exact truthful_wrap (truthful_step .up steps wiper) _
  | decreaseBy steps => exact truthful_wrap (truthful_step .down steps wiper) _
  | setMode mode => exact truthful_wrap (truthful_setMode mode wiper) _
  | nonVolatileValue =>
    refine truthful_wrap ?_ _
    rw [run_nonVolatileValue]
    exact truthful_guarded (truthful_read _) wiper
  | status => exact truthful_wrap (truthful_status rfl wiper) _
  | terminals =>
    exact truthful_wrap (truthful_access (Registers.truthful_terminals wiper.channel) wiper) _
  | setTerminals setting => exact truthful_wrap (truthful_setTerminals setting wiper) _
  | setLock locked =>
    refine truthful_wrap ?_ _
    rw [run_setLock]
    exact truthful_guarded (truthful_pulse _ (.ofBool locked) 1) wiper
  | setProtection enabled =>
    refine truthful_wrap ?_ _
    rw [run_setProtection]
    exact truthful_guarded (truthful_pulse _ (.ofBool enabled) 1) wiper

/-! ## Remarks about steps -/

/-- The direction and the number of steps of an operation that steps. -/
def Operation.steps? : Operation → Option (Direction × UInt32)
  | .increase => some (.up, 1)
  | .decrease => some (.down, 1)
  | .increaseBy steps => some (.up, steps)
  | .decreaseBy steps => some (.down, steps)
  | _ => none

/-- An operation that steps does what the step does. -/
theorem attempt_of_steps? {operation : Operation}
    (h : operation.steps? = some (direction, steps)) (responder : Bus.Responder σ)
    (wiper : Wiper) (state : σ) :
    attempt responder operation wiper state =
      attempt responder (.stepBy direction steps) wiper state := by
  cases operation <;> cases h <;> rfl

/-- A channel and its letter. -/
inductive Lettered : Channel → String → Prop
  | a : Lettered .a "A"
  | b : Lettered .b "B"
  | c : Lettered .c "C"
  | d : Lettered .d "D"

theorem lettered_name (channel : Channel) : Lettered channel channel.name := by
  cases channel <;> constructor

/-- A text tells how a step on a channel is carried out and where it leads. -/
inductive TellsStep (channel : Channel) (steps goal : Nat) : String → Prop
  | written {letter : String} (h : Lettered channel letter) :
    TellsStep channel steps goal
      ("DEBUG Channel " ++ letter ++ ": writing " ++ toString goal ++ " instead of stepping " ++
        toString steps ++ " times")
  | pulsed {letter : String} (h : Lettered channel letter) :
    TellsStep channel steps goal
      ("DEBUG Channel " ++ letter ++ ": stepping " ++ toString steps ++ " times to " ++
        toString goal)

theorem tellsStep_writingStep (channel : Channel) (goal : UInt16) (steps : UInt32) :
    TellsStep channel steps.toNat goal.toNat (Line.writingStep channel goal steps).render := by
  have htext : (Line.writingStep channel goal steps).render =
      "DEBUG Channel " ++ channel.name ++ ": writing " ++ toString goal.toNat ++
        " instead of stepping " ++ toString steps.toNat ++ " times" := by
    show "DEBUG" ++ " " ++ ("Channel " ++ _ ++ ": writing " ++ _ ++ _ ++ _ ++ _) = _
    rw [show "DEBUG Channel " = "DEBUG" ++ " " ++ "Channel " from rfl]
    simp only [String.append_assoc]
  rw [htext]
  exact .written (lettered_name channel)

theorem tellsStep_stepping (channel : Channel) (goal : UInt16) {steps : UInt32}
    (hsteps : steps.toUInt16.toNat = steps.toNat) :
    TellsStep channel steps.toNat goal.toNat
      (Line.stepping channel steps.toUInt16 goal).render := by
  have htext : (Line.stepping channel steps.toUInt16 goal).render =
      "DEBUG Channel " ++ channel.name ++ ": stepping " ++ toString steps.toUInt16.toNat ++
        " times to " ++ toString goal.toNat := by
    show "DEBUG" ++ " " ++ ("Channel " ++ _ ++ ": stepping " ++ _ ++ " times to " ++ _) = _
    rw [show "DEBUG Channel " = "DEBUG" ++ " " ++ "Channel " from rfl]
    simp only [String.append_assoc]
  rw [htext, hsteps]
  exact .pulsed (lettered_name channel)

/-- What a step remarks: which way is taken and the position that it leads to, where the wiper
stands if the step succeeds. -/
def RemarksStep (wiper : Wiper) (direction : Direction) (steps : UInt32) (shown : List String)
    (ended : Except Error Result × Wiper) : Prop :=
  ∃ (position : UInt16) (text : String), position.toNat = wiper.goal direction steps ∧
    TellsStep wiper.channel steps.toNat position.toNat text ∧ shown = [text] ∧
    ∀ result, ended.1 = .ok result → ended.2.position = position

/-- A step that succeeds ends where it was to end. -/
theorem position_of_settle {position : UInt16} {answer : Except Failure Unit} {result : Result}
    (h : (wiper.settle position answer).1.map (fun _ => Result.done) = .ok result) :
    (wiper.settle position answer).2.position = position := by
  rcases answer with failure | ⟨⟨⟩⟩
  · cases h
  · rfl

/-- **A step with something to do remarks, once, where it will end.** -/
theorem remarked_step (hrange : wiper.InRange) (hmode : wiper.mode = .volatileOnly)
    (hsome : ¬ (steps = 0 ∨ wiper.distance direction = 0)) (responder : Bus.Responder σ)
    (state : σ) :
    let outcome := attempt responder (.stepBy direction steps) wiper state
    RemarksStep wiper direction steps (outcome.shown .debug) outcome.value := by
  have hgoal := toNat_landing hrange direction steps
  by_cases hfar : maxBurst < steps ∨ wiper.distance direction ≤ steps.toNat
  · rw [attempt_stepBy, run_step_of_far hrange hmode hsome hfar]
    exact ⟨_, _, hgoal, tellsStep_writingStep wiper.channel _ steps, rfl,
      fun _ => position_of_settle⟩
  · have hshort : steps.toNat ≤ 5 :=
      Nat.not_lt.1 fun hlt => hfar (.inl (UInt32.lt_iff_toNat_lt.2 hlt))
    have hsteps : steps.toUInt16.toNat = steps.toNat := by
      rw [UInt32.toNat_toUInt16]
      omega
    rw [attempt_stepBy, run_step_of_near hrange hmode hsome hfar]
    exact ⟨_, _, hgoal, tellsStep_stepping wiper.channel _ hsteps, rfl,
      fun _ => position_of_settle⟩

/-- **A step with nothing to do remarks nothing**, and neither does one that is refused. -/
theorem unremarked_step (hrange : wiper.InRange)
    (h : ¬ (wiper.mode = .volatileOnly ∧ steps ≠ 0 ∧ wiper.distance direction ≠ 0))
    (responder : Bus.Responder σ) (state : σ) :
    (attempt responder (.stepBy direction steps) wiper state).shown .debug = [] := by
  by_cases hmode : wiper.mode = .volatileOnly
  · have hnone : steps = 0 ∨ wiper.distance direction = 0 := by
      by_contra hsome
      exact h ⟨hmode, not_or.1 hsome⟩
    rw [attempt_stepBy_of_none hrange hmode hnone]
    rfl
  · rw [attempt_stepBy, run_step_of_mode hmode]
    rfl

/-! ## Warnings -/

/-- **Reading the status is one transaction, and a warning if its word is refused.** -/
theorem warned_status (responder : Bus.Responder σ) (wiper : Wiper) (state : σ) :
    let outcome := attempt responder .status wiper state
    ∃ exchange, outcome.exchanges = [exchange] ∧
      List.Forall₂ Warns (outcome.shown .warn) (refused? exchange).toList := by
  unfold attempt
  rw [Operation.perform, run_wrap, Dialogue.run_map, run_status, Dialogue.run_bind]
  simp only [Dialogue.run_done, List.append_nil]
  exact Registers.warned_status responder state

end WiperDriver.Wiper
