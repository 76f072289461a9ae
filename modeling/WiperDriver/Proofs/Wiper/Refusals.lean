import WiperDriver.Proofs.Wiper.Drift
import WiperDriver.Proofs.Wiper.Orders

/-!
# Operations that fail leave no trace

An operation that ends in an error leaves the wiper as it was, whatever the bus did. If the bus
tells which transactions the chip has carried out, the registers are as they were too, with the one
exception of a half-written move (`failure_leaves_state`). What the bus delivers for a read plays no
part in this, so it covers a STATUS word that is none and a terminal control word that no register
can hold.

The reason is the order of things in `Asks` and `Refusal`: before anything that can fail comes at
most a look at a register, except for the second write of a move of both registers.
-/

namespace WiperDriver.Wiper

open Registers (Order Reports)

variable {σ : Type}

/-- An operation is refused before it has changed the chip. -/
theorem Refusal.foldl_carryOut {wiper : Wiper} {operation : Operation} {after : List Order}
    {error : Error} (h : Refusal wiper operation after error) (chip : Chip) :
    after.foldl Order.carryOut chip = chip := by
  cases h with
  | mode | eeprom | channel => rfl
  | status => exact Order.carryOut_read (by decide) chip
  | word setting => exact Order.carryOut_read setting.channel.terminalAddress_le chip

/-- A move is never refused. -/
theorem Refusal.not_moveTo {wiper : Wiper} {target : Int32} {after : List Order} {error : Error} :
    ¬ Refusal wiper (.moveTo target) after error := by
  intro h
  cases h with
  | mode hstep => cases hstep
  | eeprom hfor => cases hfor

/-- What an operation has changed before it asks for something: nothing, or the volatile register,
if it is a move of both registers that asks for its second write. -/
theorem Asks.foldl_carryOut {wiper : Wiper} {operation : Operation} {past : List Order}
    {order : Order} (h : Asks wiper operation past order) (chip : Chip) :
    past.foldl Order.carryOut chip = chip ∧ (WritesBoth wiper operation → past = []) ∨
      past.length = 1 ∧ wiper.mode = .volatileAndNonVolatile ∧ ∃ target,
        operation = .moveTo target ∧ past.foldl Order.carryOut chip =
          chip.setRegister wiper.channel.volatileSlot (wiper.clamp target) := by
  cases h with
  | copy target hmode =>
    refine .inr ⟨rfl, hmode, target, rfl, ?_⟩
    exact Order.carryOut_write wiper.channel.volatileAddress_le (wiper.clamp_le_maxWord target) chip
  | setTerminals hchannel h =>
    refine .inl ⟨?_, fun hboth => ?_⟩
    · cases h with
      | look => rfl
      | merge => exact Order.carryOut_read (Channel.terminalAddress_le _) chip
    · obtain ⟨-, target, heq⟩ := hboth
      cases heq
  | _ => exact .inl ⟨rfl, fun _ => rfl⟩

/-- An operation that ends in an error leaves the wiper as it was. -/
theorem wiper_of_error {responder : Bus.Responder σ} {operation : Operation} {wiper : Wiper}
    {state : σ} {error : Error}
    (h : (attempt responder operation wiper state).value.1 = .error error) :
    (attempt responder operation wiper state).value.2 = wiper := by
  cases attempt_ending responder operation wiper state with
  | smooth orders _ hends =>
    unfold Ends at hends
    rw [h] at hends
    exact hends.2
  | broken _ _ _ _ _ _ _ _ _ hvalue => rw [hvalue]

/-- **Errors leave everything as it was.** Whatever the bus does, an operation that ends in an error
leaves the wiper as it was: its model, its channel, its mode and its known position. If moreover the
bus carries out a transaction if and only if it reports success, every register of the chip is as it
was, with one exception: a move of both registers whose second write has failed has set the volatile
register to the clamped target, and changed nothing else. -/
theorem failure_leaves_state {responder : Bus.Responder σ} {operation : Operation} {wiper : Wiper}
    {state : σ} {error : Error}
    (h : (attempt responder operation wiper state).value.1 = .error error) :
    let outcome := attempt responder operation wiper state
    outcome.value.2 = wiper ∧ ∀ chip : σ → Chip, Reports responder chip →
      (¬ HalfWritten wiper operation outcome → chip outcome.state = chip state) ∧
      (HalfWritten wiper operation outcome → ∃ target, operation = .moveTo target ∧
        chip outcome.state =
          (chip state).setRegister wiper.channel.volatileSlot (wiper.clamp target)) := by
  intro outcome
  refine ⟨wiper_of_error h, fun chip hbus => ?_⟩
  obtain ⟨orders, hchip, hending⟩ := (prompt_perform operation wiper).chip_ending hbus state
  change chip outcome.state = _ at hchip
  rw [hchip]
  rcases hending with hends | ⟨hcalls, order, hasks⟩
  · -- The operation was refused, with the chip as it was.
    unfold Ends at hends
    rw [show ((operation.perform.run.run wiper).run responder state).value.1 = _ from h] at hends
    refine ⟨fun _ => hends.1.foldl_carryOut _, fun hhalf => ?_⟩
    obtain ⟨-, target, rfl⟩ := hhalf.both
    exact absurd hends.1 Refusal.not_moveTo
  · change outcome.calls.length = _ at hcalls
    rcases hasks.foldl_carryOut (chip state) with
      ⟨hkept, hfirst⟩ | ⟨hsecond, hmode, target, rfl, hset⟩
    · refine ⟨fun _ => hkept, fun hhalf => ?_⟩
      have htwo := hhalf.calls
      rw [hcalls, hfirst hhalf.both] at htwo
      cases htwo
    · refine ⟨fun hnot => ?_, fun _ => ⟨target, rfl, hset⟩⟩
      exact absurd ⟨⟨hmode, target, rfl⟩, by rw [hcalls, hsecond], error, h⟩ hnot

/-- A bus that gives out after one transaction fails a move of both registers at its second write:
the wiper, at 20, keeps its position, the volatile register holds the clamped target, and the EEPROM
register what it held. -/
theorem failure_leaves_state_half_written :
    let wiper : Wiper := ⟨.mcp4661, .b, .volatileAndNonVolatile, 20⟩
    let failure : Failure := ⟨.other, "gone"⟩
    let chip : Chip := ⟨.replicate 16 7, 256⟩
    let outcome := attempt (Bus.cutOff failure) (.moveTo 1000) wiper (chip, 1)
    outcome.value.1 = .error (.io failure) ∧ outcome.value.2 = wiper ∧
      outcome.state.1 = chip.setRegister 1 256 := by
  intro wiper failure chip outcome
  have herror : outcome.value.1 = .error (.io failure) := rfl
  have hhalf : HalfWritten wiper _ outcome := halfWritten_cutOff failure rfl 1000 chip
  obtain ⟨hwiper, hchip⟩ := failure_leaves_state herror
  obtain ⟨target, heq, hset⟩ :=
    (hchip Prod.fst (Registers.reports_of_allOrNothing (.cutOff failure))).2 hhalf
  cases heq
  exact ⟨herror, hwiper, hset⟩

end WiperDriver.Wiper
