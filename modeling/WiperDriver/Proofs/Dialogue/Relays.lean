import WiperDriver.Dialogue.Adapt
import WiperDriver.Proofs.Dialogue.Exchanges
import Mathlib.Data.List.Forall2

/-!
# What an adapter relays

An adapter carries out each call of a dialogue by a conversation of its own with the level below.
`Relayed` lays the exchanges of the two levels side by side: to each exchange above belongs a part
of those below, and a relation says what such a part can be. `Dialogue.relayed_adapt` is that this
is so of every adapted dialogue whose adapter keeps to the relation in every single call. Where each
call above is a single one below, the two runs are `Conveyed` one into the other.
-/

namespace WiperDriver

variable {Call Call' : Type} {Answer : Call → Type} {Answer' : Call' → Type} {σ α : Type}

/-- The exchanges of a dialogue and those by which an adapter has carried them out, part by part. -/
inductive Relayed
    (serves : (call : Call) → Answer call → List ((call : Call') × Answer' call) → Prop) :
    List ((call : Call) × Answer call) → List ((call : Call') × Answer' call) → Prop
  | nil : Relayed serves [] []
  | cons {call : Call} {answer : Answer call} {part : List ((call : Call') × Answer' call)}
    {above : List ((call : Call) × Answer call)} {below : List ((call : Call') × Answer' call)}
    (h : serves call answer part) (hrest : Relayed serves above below) :
    Relayed serves (⟨call, answer⟩ :: above) (part ++ below)

theorem Outcome.exchanges_append (first : List (Event Call Answer))
    (outcome : Outcome Call Answer σ α) :
    Outcome.exchanges { outcome with events := first ++ outcome.events } =
      first.filterMap Event.exchange? ++ outcome.exchanges :=
  List.filterMap_append

/-- **What holds of one call holds of a dialogue.** -/
theorem Dialogue.relayed_adapt {adapter : Adapter Call Answer Call' Answer'}
    {responder : Responder Call' Answer' σ}
    {serves : (call : Call) → Answer call → List ((call : Call') × Answer' call) → Prop}
    (hserves : ∀ call state, serves call ((adapter call).run responder state).value
      ((adapter call).run responder state).exchanges)
    (dialogue : Dialogue Call Answer α) (state : σ) :
    Relayed serves (dialogue.run (responder.through adapter) state).exchanges
      ((dialogue.adapt adapter).run responder state).exchanges := by
  induction dialogue generalizing state with
  | done value => exact .nil
  | say line next ih => exact ih state
  | ask call next ih =>
    rw [adapt_ask, run_bind, Outcome.exchanges_append, run_ask, Outcome.exchanges_after_answered]
    exact .cons (hserves call state) (ih _ _)

namespace Relayed

variable {serves : (call : Call) → Answer call → List ((call : Call') × Answer' call) → Prop}
  {above : List ((call : Call) × Answer call)} {below : List ((call : Call') × Answer' call)}

/-- Where every call is carried out by a single one, the two levels run side by side. -/
theorem forall₂ {conveys : (call : Call) × Answer call → (call : Call') × Answer' call → Prop}
    (h : Relayed (fun call answer part => ∃ exchange, part = [exchange] ∧
      conveys ⟨call, answer⟩ exchange) above below) : List.Forall₂ conveys above below := by
  induction h with
  | nil => exact .nil
  | cons hfirst _ ih =>
    obtain ⟨exchange, rfl, hconveys⟩ := hfirst
    exact .cons hconveys ih

/-- An exchange below belongs to one above: its part of the exchanges below lies between those of
the exchanges before and after. -/
theorem split {front back : List ((call : Call') × Answer' call)}
    {exchange : (call : Call') × Answer' call} (h : Relayed serves above below)
    (hbelow : below = front ++ exchange :: back) :
    ∃ before call answer after first last rest, above = before ++ ⟨call, answer⟩ :: after ∧
      serves call answer (first ++ exchange :: last) ∧ back = last ++ rest ∧
      Relayed serves after rest := by
  induction h generalizing front with
  | nil => exact absurd hbelow.symm (List.append_ne_nil_of_right_ne_nil _ (List.cons_ne_nil _ _))
  | @cons call answer part above below hfirst hrest ih =>
    rcases List.append_eq_append_iff.1 hbelow with
      ⟨middle, hfront, hmiddle⟩ | ⟨middle, hpart, hmiddle⟩
    · obtain ⟨before, call', answer', after, first, last, rest, rfl, h⟩ := ih hmiddle
      exact ⟨⟨call, answer⟩ :: before, call', answer', after, first, last, rest, rfl, h⟩
    · rcases middle with _ | ⟨head, last⟩
      · -- The part before ends where the front does.
        have hbelow : below = [] ++ exchange :: back := hmiddle.symm
        obtain ⟨before, call', answer', after, first, last, rest, rfl, h⟩ := ih hbelow
        exact ⟨⟨call, answer⟩ :: before, call', answer', after, first, last, rest, rfl, h⟩
      · obtain ⟨rfl, rfl⟩ := List.cons.inj hmiddle
        exact ⟨[], call, answer, above, front, last, below, rfl, hpart ▸ hfirst, rfl, hrest⟩

end Relayed

/-! ## One call for one -/

/-- A run and the run that it is carried out by, exchange by exchange, with the same end. -/
structure Conveyed (conveys : (call : Call) × Answer call → (call : Call') × Answer' call → Prop)
    (above : Outcome Call Answer σ α) (below : Outcome Call' Answer' σ α) : Prop where
  exchanges : List.Forall₂ conveys above.exchanges below.exchanges
  value_eq : below.value = above.value
  state_eq : below.state = above.state

/-- An adapter that makes one call for each conveys every dialogue. -/
theorem Dialogue.conveyed_adapt {adapter : Adapter Call Answer Call' Answer'}
    {responder : Responder Call' Answer' σ}
    {conveys : (call : Call) × Answer call → (call : Call') × Answer' call → Prop}
    (hconveys : ∀ call state, ∃ exchange,
      ((adapter call).run responder state).exchanges = [exchange] ∧
        conveys ⟨call, ((adapter call).run responder state).value⟩ exchange)
    (dialogue : Dialogue Call Answer α) (state : σ) :
    Conveyed conveys (dialogue.run (responder.through adapter) state)
      ((dialogue.adapt adapter).run responder state) := by
  obtain ⟨hvalue, hstate⟩ := run_adapt adapter responder dialogue state
  exact ⟨Relayed.forall₂ (relayed_adapt hconveys dialogue state), hvalue, hstate⟩

end WiperDriver
