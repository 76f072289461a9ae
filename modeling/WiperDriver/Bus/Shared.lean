import WiperDriver.Bus

/-!
# A bus in shared hands

Several wipers can share one bus, and a caller may take hold of it between their operations. While
it is held every transaction is refused and the bus itself is not touched (`Shared.respond_held`);
otherwise sharing changes nothing (`Shared.respond_free`).
-/

namespace WiperDriver.Bus

/-- The answer of a failed transaction. -/
def fail (failure : Failure) : (call : Call) → Answer call
  | .write _ => .error failure
  | .writeRead _ _ => .error failure

/-- A bus and whether a caller holds it. -/
structure Shared (σ : Type) where
  held : Bool
  bus : σ

namespace Shared

/-- The failure of a transaction on a bus that is held. -/
def busy : Failure where
  kind := .wouldBlock
  text := "I2C bus already in use"

variable {σ : Type}

/-- Passes transactions on to the bus unless it is held. -/
def respond (responder : Responder σ) : Responder (Shared σ) := fun call shared =>
  if shared.held then (fail busy call, shared)
  else
    let (answer, bus) := responder call shared.bus
    (answer, { shared with bus })

theorem respond_held (responder : Responder σ) (call : Call) {shared : Shared σ}
    (h : shared.held = true) : respond responder call shared = (fail busy call, shared) := by
  simp [respond, h]

theorem respond_free (responder : Responder σ) (call : Call) {shared : Shared σ}
    (h : shared.held = false) :
    respond responder call shared =
      ((responder call shared.bus).1, { shared with bus := (responder call shared.bus).2 }) := by
  simp [respond, h]

end Shared

end WiperDriver.Bus
