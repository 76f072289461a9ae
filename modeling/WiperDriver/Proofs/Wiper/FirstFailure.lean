import WiperDriver.Proofs.Wiper.Orders

/-!
# The first failure wins

A bus may answer as it likes. Still no operation, on the registers or on a wiper, nor taking
control, makes more than two transactions, goes on after one that has failed, or ends with another
error than that of the failed one; and none speaks of a failed transaction without one.
`Bus.Candid` is this property of a dialogue and `first_failure_wins` the result.

It all follows from the shape of the dialogues (`candid_of_prompt`). That the transactions before
a failure do not depend on it is so for any dialogue, because a dialogue cannot look ahead.
-/

namespace WiperDriver

namespace Bus

open Registers (Order Prompt)

variable {α β : Type}

/-- A dialogue repeats no transaction, covers up no failure and makes none up. -/
structure Candid (result : α → Except Error β) (dialogue : Dialogue Call Answer α) : Prop where
  /-- There are two transactions at most. -/
  calls_le : ∀ {σ : Type} (responder : Responder σ) (state : σ),
    (dialogue.run responder state).calls.length ≤ 2
  /-- A transaction that fails is the last, and its error is the result. -/
  first_failure : ∀ {σ : Type} (responder : Responder σ) (state : σ)
    (before after : List ((call : Call) × Answer call)) (call : Call) (answer : Answer call)
    (error : Error),
    (dialogue.run responder state).exchanges = before ++ ⟨call, answer⟩ :: after →
      failure? call answer = some error →
        after = [] ∧ result (dialogue.run responder state).value = .error error
  /-- An error that tells of a failed transaction is that of the last one. -/
  nothing_made_up : ∀ {σ : Type} (responder : Responder σ) (state : σ) (error : Error),
    result (dialogue.run responder state).value = .error error → error.FromBus →
      ∃ before call answer, (dialogue.run responder state).exchanges = before ++ [⟨call, answer⟩] ∧
        failure? call answer = some error
  /-- As long as the answers are the same, failing the next one or not, so are the transactions. -/
  same_until : ∀ (one other : Script Call Answer) (count : Nat),
    (∀ number < count, one number = other number) →
      (dialogue.run one.respond 0).calls.take (count + 1) =
        (dialogue.run other.respond 0).calls.take (count + 1)

/-- Among exchanges that have all succeeded but the last, one that has failed is the last. -/
theorem eq_of_failed {before after front : List ((call : Call) × Answer call)}
    {exchange last : (call : Call) × Answer call} {error : Error}
    (hfront : ∀ exchange ∈ front, failure? exchange.1 exchange.2 = none)
    (h : before ++ exchange :: after = front ++ [last])
    (hfailed : failure? exchange.1 exchange.2 = some error) : after = [] ∧ exchange = last := by
  rcases List.eq_nil_or_concat after with rfl | ⟨others, final, rfl⟩
  · obtain ⟨-, hlast⟩ := List.append_inj' h rfl
    exact ⟨rfl, List.singleton_inj.1 hlast⟩
  · rw [List.concat_eq_append, ← List.cons_append, ← List.append_assoc] at h
    obtain ⟨rfl, -⟩ := List.append_inj' h rfl
    have hgood := hfront exchange (List.mem_append_right _ List.mem_cons_self)
    rw [hfailed] at hgood
    cases hgood

/-- In the run of a dialogue that stops at the first failure, a transaction that has failed is the
last, and its error is the outcome. -/
theorem eq_raise_of_failed {permits : List Order → Order → Prop} {raise : Error → α}
    {ends : List Order → α → Prop} {past : List Order} {dialogue : Dialogue Call Answer α}
    {σ : Type} {responder : Responder σ} {state : σ} (h : Prompt permits raise ends past dialogue)
    {before after : List ((call : Call) × Answer call)} {exchange : (call : Call) × Answer call}
    {error : Error}
    (hexchanges : (dialogue.run responder state).exchanges = before ++ exchange :: after)
    (hfailed : failure? exchange.1 exchange.2 = some error) :
    after = [] ∧ (dialogue.run responder state).value = raise error := by
  cases h.ending responder state with
  | smooth orders hcarried _ =>
    have hgood := hcarried.failure?_eq exchange (by simp [hexchanges])
    rw [hfailed] at hgood
    cases hgood
  | broken orders front order last error' hlast hfront _ herror hvalue =>
    obtain ⟨rfl, rfl⟩ := eq_of_failed hfront.failure?_eq (hexchanges.symm.trans hlast) hfailed
    rw [herror] at hfailed
    cases hfailed
    exact ⟨rfl, hvalue⟩

/-- **Dialogues that stop at the first failure are candid.** -/
theorem candid_of_prompt {permits : List Order → Order → Prop} {raise : Error → α}
    {ends : List Order → α → Prop} {result : α → Except Error β}
    {dialogue : Dialogue Call Answer α} (h : Prompt permits raise ends [] dialogue)
    (hpermits : ∀ past order, permits past order → past.length < 2)
    (hraise : ∀ error, result (raise error) = .error error)
    (hends : ∀ after value error, ends after value → result value = .error error →
      ¬ error.FromBus) : Candid result dialogue where
  calls_le responder state := by
    have hle := h.calls_length_le hpermits (Nat.zero_le 2) responder state
    rwa [List.length_nil, Nat.zero_add] at hle
  first_failure responder state before after call answer error hexchanges hfailed := by
    obtain ⟨hlast, hvalue⟩ := eq_raise_of_failed h hexchanges hfailed
    exact ⟨hlast, by rw [hvalue, hraise]⟩
  nothing_made_up responder state error herror hbus := by
    cases h.ending responder state with
    | smooth orders _ hvalue => exact absurd hbus (hends _ _ error hvalue herror)
    | broken orders front order last error' hlast _ _ hfailed hvalue =>
      rw [hvalue, hraise] at herror
      cases herror
      exact ⟨front, order.call, last, hlast, hfailed⟩
  same_until one other count hagree :=
    dialogue.calls_agree fun number hnumber => hagree number (by omega)

end Bus

namespace Wiper

open Bus (Candid candid_of_prompt)
open Registers (Order)

/-- The reasons to refuse an operation are not the bus's. -/
theorem Refusal.not_fromBus {wiper : Wiper} {operation : Operation} {after : List Order}
    {error : Error} (h : Refusal wiper operation after error) : ¬ error.FromBus := by
  cases h <;> exact id

/-- Neither are the reasons to refuse control. -/
theorem Begins.not_fromBus {model : Model} {channel : Channel} {mode : Mode} {error : Error}
    (h : Begins model channel mode (.error error)) : ¬ error.FromBus := by
  rcases h.error_eq with rfl | rfl <;> exact id

/-- **No retries, the first failure wins, and nothing is hidden.** Of a bus that answers in any way
whatsoever, every operation on the registers, every operation on a wiper, known or out of all
bounds, and taking control of a channel ask two transactions at most; the first one that fails ends
them with its own error; and they end with such an error only if their last transaction has failed
with it. -/
theorem first_failure_wins :
    (∀ operation : Registers.Operation, Candid id operation.perform.run) ∧
      (∀ (operation : Operation) (wiper : Wiper),
        Candid Prod.fst (operation.perform.run.run wiper)) ∧
      ∀ (model : Model) (channel : Channel) (mode : Mode) (initial : Int32),
        Candid id (start model channel mode initial).run := by
  refine ⟨fun operation => ?_, fun operation wiper => ?_, fun model channel mode initial => ?_⟩
  · refine candid_of_prompt (Registers.prompt_perform operation) (fun _ _ => id) (fun _ => rfl) ?_
    intro after result error hends h
    cases h
    exact hends
  · refine candid_of_prompt (prompt_perform operation wiper) (fun _ _ => Asks.length_past_lt)
      (fun _ => rfl) ?_
    rintro after ⟨result, wiper'⟩ error hends h
    cases h
    exact hends.1.not_fromBus
  · refine candid_of_prompt (prompt_start model channel mode initial) ?_ (fun _ => rfl) ?_
    · rintro _ _ (_ | _) <;> exact Nat.zero_lt_two
    · intro after result error hends h
      cases h
      exact hends.not_fromBus

/-- A read that delivers one byte too few ends a change of terminals before its write. -/
example :
    let answers : Script Bus.Call Bus.Answer := fun _ call => match call with
      | .write _ => .ok ()
      | .writeRead _ _ => .ok ⟨1, [0x01]⟩
    let outcome := (Registers.setTerminals ⟨.a, true, true, true, true⟩).run.run answers.respond 0
    outcome.value = .error (.unexpectedByteCount 2 1) ∧ outcome.calls = [.writeRead [0x4C] 2] := by
  exact ⟨rfl, rfl⟩

end Wiper

end WiperDriver
