import WiperDriver.Bus

/-!
# A bus on loan

A bus can be lent to a driver for its exclusive use. Every transaction goes through to the bus as it
is, so a conversation over a bus on loan is the conversation itself (`adapt_lent`), and the bus on
loan is the bus (`through_lent`).
-/

namespace WiperDriver.Bus

variable {σ α : Type}

/-- Passes every transaction on as it is. -/
def lent : Adapter Call Answer Call Answer
  | .write bytes => Dialogue.request (Call.write bytes)
  | .writeRead bytes length => Dialogue.request (Call.writeRead bytes length)

theorem lent_eq_request (call : Call) : lent call = Dialogue.request call := by
  cases call <;> rfl

/-- A conversation over a bus on loan makes the same transactions. -/
theorem adapt_lent (dialogue : Dialogue Call Answer α) : dialogue.adapt lent = dialogue := by
  rw [funext lent_eq_request]
  exact dialogue.adapt_request

/-- A bus on loan answers as the bus itself. -/
theorem through_lent (responder : Responder σ) : responder.through lent = responder := by
  funext call state
  rw [Responder.through, lent_eq_request]
  rfl

end WiperDriver.Bus
