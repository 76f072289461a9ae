import WiperDriver.Dialogue.Basic

/-!
# Running a dialogue

A responder answers calls from a state that it may change. Running a dialogue against one gives a
value, the state afterwards, and the events on the way: every reported line and every call with its
answer, in order. `run_bind` says that running two dialogues in a row is running one and then the
other, with the events of the first in front.
-/

namespace WiperDriver

/-- Answers every call from a state, and may change the state. -/
abbrev Responder (Call : Type) (Answer : Call → Type) (σ : Type) : Type :=
  (call : Call) → σ → Answer call × σ

/-- Something that happens while a dialogue runs. -/
inductive Event (Call : Type) (Answer : Call → Type) where
  /-- A line was reported. -/
  | reported (line : Log.Line)
  /-- A call was made and answered. -/
  | answered (call : Call) (answer : Answer call)

namespace Event

variable {Call : Type} {Answer : Call → Type}

/-- The line of a report. -/
def line? : Event Call Answer → Option Log.Line
  | .reported line => some line
  | .answered _ _ => none

/-- The call of an exchange. -/
def call? : Event Call Answer → Option Call
  | .reported _ => none
  | .answered call _ => some call

end Event

/-- How a run ended. -/
structure Outcome (Call : Type) (Answer : Call → Type) (σ α : Type) where
  /-- The value of the dialogue. -/
  value : α
  /-- The responder's state afterwards. -/
  state : σ
  /-- What happened, in order. -/
  events : List (Event Call Answer)

namespace Outcome

variable {Call : Type} {Answer : Call → Type} {σ α : Type}

/-- The lines that were reported, in order. -/
def lines (outcome : Outcome Call Answer σ α) : List Log.Line :=
  outcome.events.filterMap Event.line?

/-- The calls that were made, in order. -/
def calls (outcome : Outcome Call Answer σ α) : List Call :=
  outcome.events.filterMap Event.call?

/-- The same end with an event in front of the others. -/
def after (event : Event Call Answer) (outcome : Outcome Call Answer σ α) :
    Outcome Call Answer σ α :=
  { outcome with events := event :: outcome.events }

end Outcome

namespace Dialogue

variable {Call : Type} {Answer : Call → Type} {σ α β : Type}

/-- Runs a dialogue against a responder. -/
def run (responder : Responder Call Answer σ) :
    Dialogue Call Answer α → σ → Outcome Call Answer σ α
  | .done value, state => ⟨value, state, []⟩
  | .say line next, state => (next.run responder state).after (.reported line)
  | .ask call next, state =>
    let (answer, state) := responder call state
    ((next answer).run responder state).after (.answered call answer)

variable (responder : Responder Call Answer σ) (state : σ)

@[simp]
theorem run_done (value : α) :
    (Dialogue.done value : Dialogue Call Answer α).run responder state = ⟨value, state, []⟩ :=
  rfl

@[simp]
theorem run_say (line : Log.Line) (next : Dialogue Call Answer α) :
    (Dialogue.say line next).run responder state =
      (next.run responder state).after (.reported line) :=
  rfl

@[simp]
theorem run_ask (call : Call) (next : Answer call → Dialogue Call Answer α) :
    (Dialogue.ask call next).run responder state =
      ((next (responder call state).1).run responder (responder call state).2).after
        (.answered call (responder call state).1) :=
  rfl

/-- A run of two dialogues in a row is a run of the first and, from there, of the second. -/
theorem run_bind (dialogue : Dialogue Call Answer α) (f : α → Dialogue Call Answer β) :
    (dialogue >>= f).run responder state =
      let first := dialogue.run responder state
      let second := (f first.value).run responder first.state
      { second with events := first.events ++ second.events } := by
  induction dialogue generalizing state with
  | done value => rfl
  | say line next ih => simp [ih, Outcome.after]
  | ask call next ih => simp [ih, Outcome.after]

end Dialogue

end WiperDriver
