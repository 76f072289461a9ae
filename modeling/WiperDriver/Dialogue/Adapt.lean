import WiperDriver.Dialogue.Run

/-!
# Adapters

An adapter carries out the calls of one level as dialogues on the level below. `adapt` replaces
every call of a dialogue in this way. Seen from above, an adapter over a responder is a responder
again (`Responder.through`), and `run_adapt` says that the two views agree: the adapted
dialogue has the same value and leaves the same state as the dialogue itself over that responder.
-/

namespace WiperDriver

/-- Carries out the calls of one level as dialogues on another. -/
abbrev Adapter (Call : Type) (Answer : Call → Type) (Call' : Type) (Answer' : Call' → Type) :
    Type :=
  (call : Call) → Dialogue Call' Answer' (Answer call)

variable {Call Call' : Type} {Answer : Call → Type} {Answer' : Call' → Type} {σ α : Type}

/-- Answers a call by running its adapter's dialogue. -/
def Responder.through (responder : Responder Call' Answer' σ)
    (adapter : Adapter Call Answer Call' Answer') : Responder Call Answer σ :=
  fun call state =>
    let outcome := (adapter call).run responder state
    (outcome.value, outcome.state)

namespace Dialogue

/-- The same dialogue with every call carried out by an adapter. -/
def adapt (adapter : Adapter Call Answer Call' Answer') :
    Dialogue Call Answer α → Dialogue Call' Answer' α
  | .done value => .done value
  | .say line next => .say line (next.adapt adapter)
  | .ask call next => adapter call >>= fun answer => (next answer).adapt adapter

variable (adapter : Adapter Call Answer Call' Answer')

@[simp]
theorem adapt_done (value : α) :
    (Dialogue.done value : Dialogue Call Answer α).adapt adapter = .done value :=
  rfl

@[simp]
theorem adapt_say (line : Log.Line) (next : Dialogue Call Answer α) :
    (Dialogue.say line next).adapt adapter = .say line (next.adapt adapter) :=
  rfl

@[simp]
theorem adapt_ask (call : Call) (next : Answer call → Dialogue Call Answer α) :
    (Dialogue.ask call next).adapt adapter =
      adapter call >>= fun answer => (next answer).adapt adapter :=
  rfl

/-- Carrying out every call as itself changes nothing. -/
theorem adapt_request (dialogue : Dialogue Call Answer α) :
    dialogue.adapt Dialogue.request = dialogue := by
  induction dialogue with
  | done value => rfl
  | say line next ih => rw [adapt_say, ih]
  | ask call next ih =>
    rw [adapt_ask]
    exact congrArg (Dialogue.ask call) (funext ih)

/-- Seen from above, an adapted dialogue is the dialogue over the adapter's responder. -/
theorem run_adapt (responder : Responder Call' Answer' σ) (dialogue : Dialogue Call Answer α)
    (state : σ) :
    ((dialogue.adapt adapter).run responder state).value =
        (dialogue.run (responder.through adapter) state).value ∧
      ((dialogue.adapt adapter).run responder state).state =
        (dialogue.run (responder.through adapter) state).state := by
  induction dialogue generalizing state with
  | done value => exact ⟨rfl, rfl⟩
  | say line next ih => exact ih state
  | ask call next ih =>
    rw [adapt_ask, run_bind]
    exact ih _ _

end Dialogue

end WiperDriver
