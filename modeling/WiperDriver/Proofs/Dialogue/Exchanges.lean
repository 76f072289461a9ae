import WiperDriver.Dialogue.Run

/-!
# Calls with their answers

A run exchanges calls for answers. `Outcome.exchanges` lists these, `Dialogue.Asks` bounds the calls
that any course of a dialogue can make, and a `Script` fixes the answers in advance. What a dialogue
asks depends on what it has been told and on nothing else: two scripts that agree on their first
answers are asked the same up to the first answer in which they differ (`Dialogue.calls_agree`).
-/

namespace WiperDriver

variable {Call : Type} {Answer : Call → Type} {σ α : Type}

/-- The call and the answer of an exchange. -/
def Event.exchange? : Event Call Answer → Option ((call : Call) × Answer call)
  | .reported _ => none
  | .answered call answer => some ⟨call, answer⟩

/-- The calls that were made, each with its answer, in order. -/
def Outcome.exchanges (outcome : Outcome Call Answer σ α) : List ((call : Call) × Answer call) :=
  outcome.events.filterMap Event.exchange?

namespace Outcome

/-- The calls of a run are those of its exchanges. -/
theorem calls_eq (outcome : Outcome Call Answer σ α) :
    outcome.calls = outcome.exchanges.map Sigma.fst := by
  rw [calls, exchanges, List.map_filterMap]
  congr 1
  funext event
  cases event <;> rfl

@[simp]
theorem exchanges_after_answered (call : Call) (answer : Answer call)
    (outcome : Outcome Call Answer σ α) :
    (outcome.after (.answered call answer)).exchanges = ⟨call, answer⟩ :: outcome.exchanges :=
  rfl

end Outcome

/-- Changing the value of a dialogue changes nothing else of its run. -/
theorem Dialogue.run_map {β : Type} (f : α → β) (dialogue : Dialogue Call Answer α)
    (responder : Responder Call Answer σ) (state : σ) :
    (f <$> dialogue).run responder state =
      let outcome := dialogue.run responder state
      { outcome with value := f outcome.value } := by
  induction dialogue generalizing state with
  | done value => rfl
  | say line next ih => exact congrArg (Outcome.after (.reported line)) (ih state)
  | ask call next ih => exact congrArg (Outcome.after (.answered call _)) (ih _ _)

/-- Every answer of a run was given by the responder, in some state. -/
theorem Dialogue.answered_by {dialogue : Dialogue Call Answer α}
    {responder : Responder Call Answer σ} {state : σ} {exchange : (call : Call) × Answer call}
    (h : exchange ∈ (dialogue.run responder state).exchanges) :
    ∃ state', (responder exchange.1 state').1 = exchange.2 := by
  induction dialogue generalizing state with
  | done value => cases h
  | say line next ih => exact ih h
  | ask call next ih =>
    rw [run_ask, Outcome.exchanges_after_answered] at h
    rcases List.mem_cons.1 h with rfl | hlater
    · exact ⟨state, rfl⟩
    · exact ih _ hlater

/-- Every call that a dialogue can make is a permitted one, whoever answers. -/
def Dialogue.Asks (permits : Call → Prop) : Dialogue Call Answer α → Prop
  | .done _ => True
  | .say _ next => next.Asks permits
  | .ask call next => permits call ∧ ∀ answer, (next answer).Asks permits

/-- Answers fixed in advance, by the number of the call that they answer. -/
abbrev Script (Call : Type) (Answer : Call → Type) : Type :=
  Nat → (call : Call) → Answer call

/-- Answers by a script. The state is the number of the next call. -/
def Script.respond (script : Script Call Answer) : Responder Call Answer Nat :=
  fun call number => (script number call, number + 1)

/-- **What is asked depends on what was answered before.** Scripts with the same first answers are
asked the same, up to and including the call that they may answer differently. -/
theorem Dialogue.calls_agree (dialogue : Dialogue Call Answer α) {one other : Script Call Answer}
    {start count : Nat} (h : ∀ number < start + count, one number = other number) :
    ((dialogue.run one.respond start).calls).take (count + 1) =
      ((dialogue.run other.respond start).calls).take (count + 1) := by
  simp only [Outcome.calls_eq]
  induction dialogue generalizing start count with
  | done value => rfl
  | say line next ih => exact ih h
  | ask call next ih =>
    rw [run_ask, run_ask, Outcome.exchanges_after_answered, Outcome.exchanges_after_answered,
      List.map_cons, List.map_cons, List.take_succ_cons, List.take_succ_cons]
    congr 1
    cases count with
    | zero => rfl
    | succ count =>
      have hanswer : one start call = other start call := congrFun (h start (by omega)) call
      have hrest : ∀ number < start + 1 + count, one number = other number :=
        fun number hnumber => h number (by omega)
      simp only [Script.respond, hanswer]
      exact ih _ hrest

end WiperDriver
