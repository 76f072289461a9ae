import WiperDriver.Proofs.Bus.AllOrNothing
import WiperDriver.Proofs.Dialogue.Exchanges

/-!
# Dialogues that stop at the first failure

A transaction has failed if the bus says so, or if it delivered another number of bytes than a
register has (`Bus.failure?`). `Prompt` is a dialogue made of orders, each permitted after those
that have succeeded before it, which ends at the first failed transaction with the very error of
that transaction. It is a fact about the tree of courses and so about every bus, one that lies
included.

`Prompt.ending` is what it means for a run: either every transaction has succeeded, or all but the
last have and the outcome is the error of the last. `Prompt.chip_ending` adds the chip on a bus that
tells which transactions have been carried out: it has taken those that have succeeded, in order.
-/

namespace WiperDriver

/-- The error tells of a transaction that has failed. -/
def Error.FromBus : Error → Prop
  | .io _ | .unexpectedByteCount _ _ => True
  | _ => False

/-- What a failed transaction is to the driver, if it has failed. -/
def Bus.failure? : (call : Bus.Call) → Bus.Answer call → Option Error
  | .write _, .ok () => none
  | .write _, .error failure => some (.io failure)
  | .writeRead _ _, .error failure => some (.io failure)
  | .writeRead _ _, .ok reading =>
    if reading.count = Registers.wordLength then none
    else some (.unexpectedByteCount Registers.wordLength reading.count)

@[simp]
theorem Bus.failure?_reading (bytes : List UInt8) (length : Nat) (reading : Bus.Reading) :
    Bus.failure? (.writeRead bytes length) (.ok reading) =
      if reading.count = Registers.wordLength then none
      else some (.unexpectedByteCount Registers.wordLength reading.count) :=
  rfl

/-- The error of a failed transaction tells of one. -/
theorem Bus.fromBus_of_failure? {call : Bus.Call} {answer : Bus.Answer call} {error : Error}
    (h : Bus.failure? call answer = some error) : error.FromBus := by
  cases call with
  | write bytes =>
    rcases answer with failure | ⟨⟨⟩⟩
    · cases h
      trivial
    · cases h
  | writeRead bytes length =>
    rcases answer with failure | reading
    · cases h
      trivial
    · rw [Bus.failure?_reading] at h
      split at h
      · cases h
      · cases h
        trivial

namespace Registers

open Bus (Call Answer failure?)

variable {σ α β : Type}

/-! ## Orders -/

/-- What one transaction asks of the chip. -/
inductive Order where
  | read (address : UInt8)
  | write (address : UInt8) (value : UInt16)
  | pulse (address : UInt8) (direction : Direction) (count : Nat) (h : count ≤ maxBurst)

/-- The transaction of an order. -/
abbrev Order.call : Order → Call
  | .read address => .writeRead [(address <<< 4) ||| Command.Operation.read.code] wordLength
  | .write address value =>
    .write [((address <<< 4) ||| Command.Operation.write.code) ||| (value >>> 8).toUInt8,
      value.toUInt8]
  | .pulse address direction count _ =>
    .write (List.replicate count
      ((address <<< 4) ||| (Command.Operation.ofDirection direction).code))

/-- A dialogue that ends with the error of the first transaction that fails, and otherwise with a
value of a certain kind. What it may ask, and how it may end, depends on the orders that have been
carried out so far. -/
inductive Prompt (permits : List Order → Order → Prop) (raise : Error → α)
    (ends : List Order → α → Prop) : List Order → Dialogue Call Answer α → Prop
  | done {past value} (h : ends past value) : Prompt permits raise ends past (.done value)
  | say {past next} (line : Log.Line) (h : Prompt permits raise ends past next) :
    Prompt permits raise ends past (.say line next)
  | ask {past order call next} (hpermits : permits past order) (hcall : call = order.call)
    (hfailed : ∀ answer error, failure? call answer = some error →
      next answer = .done (raise error))
    (hgood : ∀ answer, failure? call answer = none →
      Prompt permits raise ends (past ++ [order]) (next answer)) :
    Prompt permits raise ends past (.ask call next)

/-- Each of some orders is permitted after those before it. -/
inductive Succession (permits : List Order → Order → Prop) : List Order → List Order → Prop
  | nil {past} : Succession permits past []
  | cons {past order orders} (h : permits past order)
    (hrest : Succession permits (past ++ [order]) orders) :
    Succession permits past (order :: orders)

/-- Every one of them is permitted after some. -/
theorem Succession.permitted {permits : List Order → Order → Prop} {past orders : List Order}
    (h : Succession permits past orders) : ∀ order ∈ orders, ∃ before, permits before order := by
  induction h with
  | nil => exact nofun
  | cons hfirst _ ih => exact List.forall_mem_cons.2 ⟨⟨_, hfirst⟩, ih⟩

/-- What is permitted only as the first order is the only one. -/
theorem Succession.eq_singleton {permits : List Order → Order → Prop} {orders : List Order}
    (h : Succession permits [] orders) (hfirst : ∀ past order, permits past order → past = [])
    {order : Order} (hmem : order ∈ orders) : orders = [order] := by
  cases h with
  | nil => cases hmem
  | cons _ hrest =>
    cases hrest with
    | nil => rw [List.mem_singleton.1 hmem]
    | cons hsecond => cases hfirst _ _ hsecond

namespace Prompt

variable {permits permits' : List Order → Order → Prop} {raise : Error → α} {raise' : Error → β}
  {ends ends' : List Order → α → Prop} {past : List Order} {dialogue : Dialogue Call Answer α}

/-! ## Putting prompt dialogues together -/

/-- What is prompt stays so with more permitted, and more allowed at the end. -/
theorem mono (h : Prompt permits raise ends past dialogue)
    (hpermits : ∀ past order, permits past order → permits' past order)
    (hends : ∀ past value, ends past value → ends' past value) :
    Prompt permits' raise ends' past dialogue := by
  induction h with
  | done hvalue => exact .done (hends _ _ hvalue)
  | say line _ ih => exact .say line ih
  | ask hallowed hcall hfailed _ ih => exact .ask (hpermits _ _ hallowed) hcall hfailed ih

/-- A prompt dialogue and a rest that is prompt after each of its ends are prompt together, if the
rest does nothing with an error but to pass it on. -/
theorem bind {dialogue : Dialogue Call Answer (Except Error α)}
    {ends : List Order → Except Error α → Prop} {ends' : List Order → β → Prop}
    {f : Except Error α → Dialogue Call Answer β} (h : Prompt permits .error ends past dialogue)
    (hpass : ∀ error, f (.error error) = .done (raise' error))
    (hrest : ∀ past result, ends past result → Prompt permits raise' ends' past (f result)) :
    Prompt permits raise' ends' past (dialogue >>= f) := by
  induction h with
  | done hresult => exact hrest _ _ hresult
  | say line _ ih => exact .say line ih
  | ask hpermits hcall hfailed _ ih =>
    refine .ask hpermits hcall (fun answer error herror => ?_) ih
    rw [hfailed answer error herror]
    exact hpass error

/-- Changing the value of a prompt dialogue leaves it prompt. -/
theorem map {ends' : List Order → β → Prop} (h : Prompt permits raise ends past dialogue)
    {g : α → β} (hraise : ∀ error, g (raise error) = raise' error)
    (hends : ∀ past value, ends past value → ends' past (g value)) :
    Prompt permits raise' ends' past (g <$> dialogue) := by
  induction h with
  | done hvalue => exact .done (hends _ _ hvalue)
  | say line _ ih => exact .say line ih
  | ask hpermits hcall hfailed _ ih =>
    rw [Dialogue.map_ask]
    refine .ask hpermits hcall (fun answer error herror => ?_) ih
    rw [hfailed answer error herror, Dialogue.map_done, hraise]

/-! ## What a run makes of one -/

/-- On every course the calls are those of orders. -/
theorem asks (h : Prompt permits raise ends past dialogue) {allowed : Call → Prop}
    (hallowed : ∀ order : Order, allowed order.call) : dialogue.Asks allowed := by
  induction h with
  | done _ => trivial
  | say _ _ ih => exact ih
  | @ask _ order call _ _ hcall hfailed _ ih =>
    refine ⟨hcall ▸ hallowed order, fun answer => ?_⟩
    cases hanswer : failure? call answer with
    | none => exact ih answer hanswer
    | some error =>
      rw [hfailed answer error hanswer]
      trivial

/-- If an order is permitted only after fewer than some number of others, no run makes more calls
than that. -/
theorem calls_length_le (h : Prompt permits raise ends past dialogue) {budget : Nat}
    (hbudget : ∀ past order, permits past order → past.length < budget)
    (hpast : past.length ≤ budget) (responder : Bus.Responder σ) (state : σ) :
    past.length + (dialogue.run responder state).calls.length ≤ budget := by
  rw [Outcome.calls_eq, List.length_map]
  induction h generalizing state with
  | done _ => exact hpast
  | say _ _ ih => exact ih hpast state
  | @ask past order call next hpermits _ hfailed _ ih =>
    have hroom := hbudget _ _ hpermits
    rw [Dialogue.run_ask, Outcome.exchanges_after_answered, List.length_cons]
    cases hanswer : failure? call (responder call state).1 with
    | none =>
      have hrest := ih _ hanswer (by rw [List.length_append]; exact hroom) (responder call state).2
      rw [List.length_append] at hrest
      simp only [List.length_cons, List.length_nil] at hrest
      omega
    | some error =>
      rw [hfailed _ error hanswer]
      exact hroom

/-- The calls of a run are those of orders, each of them permitted after the ones before it. -/
theorem orders (h : Prompt permits raise ends past dialogue) (responder : Bus.Responder σ)
    (state : σ) : ∃ orders, Succession permits past orders ∧
      (dialogue.run responder state).calls = orders.map Order.call := by
  rw [Outcome.calls_eq]
  induction h generalizing state with
  | done _ => exact ⟨[], .nil, rfl⟩
  | say _ _ ih => exact ih state
  | @ask past order call next hpermits hcall hfailed _ ih =>
    subst hcall
    rw [Dialogue.run_ask, Outcome.exchanges_after_answered, List.map_cons]
    cases hanswer : failure? order.call (responder order.call state).1 with
    | none =>
      obtain ⟨orders, hsuccession, hcalls⟩ := ih _ hanswer (responder order.call state).2
      exact ⟨order :: orders, .cons hpermits hsuccession, congrArg (_ :: ·) hcalls⟩
    | some error =>
      rw [hfailed _ error hanswer]
      exact ⟨[order], .cons hpermits .nil, rfl⟩

end Prompt

/-! ## How a run ends -/

/-- The exchanges are those of some orders, and all have succeeded. -/
inductive Carried : List Order → List ((call : Call) × Answer call) → Prop
  | nil : Carried [] []
  | cons {order orders exchanges} (answer : Answer order.call)
    (h : failure? order.call answer = none) (hrest : Carried orders exchanges) :
    Carried (order :: orders) (⟨order.call, answer⟩ :: exchanges)

/-- None of them has failed. -/
theorem Carried.failure?_eq {orders : List Order} {exchanges : List ((call : Call) × Answer call)}
    (h : Carried orders exchanges) :
    ∀ exchange ∈ exchanges, failure? exchange.1 exchange.2 = none := by
  induction h with
  | nil => exact nofun
  | cons answer hfirst _ ih => exact List.forall_mem_cons.2 ⟨hfirst, ih⟩

/-- They are as many as the orders. -/
theorem Carried.length_eq {orders : List Order} {exchanges : List ((call : Call) × Answer call)}
    (h : Carried orders exchanges) : exchanges.length = orders.length := by
  induction h with
  | nil => rfl
  | cons _ _ _ ih => exact congrArg (· + 1) ih

/-- How a run can end that stops at the first failure. -/
inductive Ending (permits : List Order → Order → Prop) (raise : Error → α)
    (ends : List Order → α → Prop) (past : List Order) (outcome : Outcome Call Answer σ α) : Prop
  /-- No transaction has failed. -/
  | smooth (orders : List Order) (h : Carried orders outcome.exchanges)
    (hends : ends (past ++ orders) outcome.value)
  /-- The last transaction has failed, and its error is the outcome. -/
  | broken (orders : List Order) (before : List ((call : Call) × Answer call)) (order : Order)
    (answer : Answer order.call) (error : Error)
    (hexchanges : outcome.exchanges = before ++ [⟨order.call, answer⟩])
    (hbefore : Carried orders before) (hpermits : permits (past ++ orders) order)
    (hfailed : failure? order.call answer = some error) (hvalue : outcome.value = raise error)

variable {permits : List Order → Order → Prop} {raise : Error → α} {ends : List Order → α → Prop}
  {past : List Order} {dialogue : Dialogue Call Answer α}

/-- **A prompt dialogue succeeds throughout or ends with its first failure.** -/
theorem Prompt.ending (h : Prompt permits raise ends past dialogue) (responder : Bus.Responder σ)
    (state : σ) : Ending permits raise ends past (dialogue.run responder state) := by
  induction h generalizing state with
  | @done past _ hvalue => exact .smooth [] .nil (by rwa [List.append_nil])
  | say line _ ih =>
    cases ih state with
    | smooth orders hcarried hends => exact .smooth orders hcarried hends
    | broken orders before order answer error hexchanges hbefore hpermits hfailed hvalue =>
      exact .broken orders before order answer error hexchanges hbefore hpermits hfailed hvalue
  | @ask past order call next hpermits hcall hfailed _ ih =>
    subst hcall
    rw [Dialogue.run_ask]
    cases hanswer : failure? order.call (responder order.call state).1 with
    | some error =>
      rw [hfailed _ error hanswer]
      exact .broken [] [] order _ error rfl .nil (by rwa [List.append_nil]) hanswer rfl
    | none =>
      have hcons {orders : List Order} {rest : List ((call : Call) × Answer call)}
          (hrest : Carried orders rest) :
          Carried (order :: orders) (⟨order.call, (responder order.call state).1⟩ :: rest) :=
        .cons _ hanswer hrest
      cases ih _ hanswer (responder order.call state).2 with
      | smooth orders hcarried hends =>
        exact .smooth _ (hcons hcarried) (by rwa [List.append_assoc] at hends)
      | broken orders before last answer error hexchanges hbefore hlast herror hvalue =>
        rw [List.append_assoc] at hlast
        refine .broken _ (_ :: before) last answer error ?_ (hcons hbefore) hlast herror hvalue
        rw [Outcome.exchanges_after_answered, hexchanges]
        rfl

/-! ## What it leaves of a chip -/

/-- A chip after an exchange, if only a transaction that has succeeded is carried out. -/
def carryOut (chip : Chip) (exchange : (call : Call) × Answer call) : Chip :=
  if failure? exchange.1 exchange.2 = none then (Chip.respond exchange.1 chip).2 else chip

/-- A chip after an order. -/
def Order.carryOut (chip : Chip) (order : Order) : Chip :=
  (Chip.respond order.call chip).2

/-- Looking at a register changes nothing. -/
theorem Order.carryOut_read {address : UInt8} (h : address ≤ Command.maxAddress) (chip : Chip) :
    Order.carryOut chip (.read address) = chip :=
  Chip.absorb_read (Command.encode_of_le h .read) chip

/-- Writing a register sets it. -/
theorem Order.carryOut_write {address : UInt8} (h : address ≤ Command.maxAddress) {value : UInt16}
    (hvalue : value ≤ maxWord) (chip : Chip) :
    Order.carryOut chip (.write address value) = chip.setRegister (Chip.slot address) value :=
  Chip.absorb_write (Command.encode_of_le h .write) hvalue chip

/-- Exchanges that have all succeeded leave the chip as their orders do. -/
theorem Carried.foldl_carryOut {orders : List Order}
    {exchanges : List ((call : Call) × Answer call)} (h : Carried orders exchanges) (chip : Chip) :
    exchanges.foldl carryOut chip = orders.foldl Order.carryOut chip := by
  induction h generalizing chip with
  | nil => rfl
  | cons answer hfirst _ ih =>
    rw [List.foldl_cons, List.foldl_cons, carryOut, if_pos hfirst]
    exact ih _

/-- A failure at the end adds nothing to them. -/
theorem Carried.foldl_carryOut_failed {orders : List Order}
    {before : List ((call : Call) × Answer call)} (h : Carried orders before) {call : Call}
    {answer : Answer call} {error : Error} (hfailed : failure? call answer = some error)
    (chip : Chip) :
    List.foldl carryOut chip (before ++ [⟨call, answer⟩]) = orders.foldl Order.carryOut chip := by
  have hnot : failure? call answer ≠ none := by
    rw [hfailed]
    exact nofun
  rw [List.foldl_append, h.foldl_carryOut]
  exact if_neg hnot

/-- A bus to one chip that carries out an order if and only if it reports success. What it delivers
for a read need not be what the chip holds. -/
def Reports (responder : Bus.Responder σ) (chip : σ → Chip) : Prop :=
  ∀ (order : Order) state, chip (responder order.call state).2 =
    carryOut (chip state) ⟨order.call, (responder order.call state).1⟩

/-- A transaction of an order that has not taken place has failed for the driver too. -/
theorem failure?_ne_none_of_failed {order : Order} {answer : Answer order.call}
    (h : Bus.Failed order.call answer) : failure? order.call answer ≠ none := by
  cases order with
  | read address =>
    rcases h with ⟨failure, rfl⟩ | ⟨reading, rfl, hcount⟩
    · exact nofun
    · rw [Bus.failure?_reading, if_neg hcount]
      exact nofun
  | write | pulse =>
    obtain ⟨failure, rfl⟩ := h
    exact nofun

/-- A bus that fails cleanly is such a bus. -/
theorem reports_of_allOrNothing {responder : Bus.Responder σ} {chip : σ → Chip}
    (h : Bus.AllOrNothing responder chip) : Reports responder chip := by
  intro order state
  have hgood : failure? order.call (Chip.respond order.call (chip state)).1 = none := by
    cases order <;> rfl
  unfold carryOut
  rcases h.carried_or_failed order.call state with ⟨hanswer, hafter⟩ | ⟨hanswer, hafter⟩
  · rw [if_pos (by rw [hanswer]; exact hgood), hafter]
  · rw [if_neg (failure?_ne_none_of_failed hanswer), hafter]

/-- **On a bus that reports what it carries out**, a prompt dialogue changes the chip by the
transactions that have succeeded, and by nothing else. -/
theorem Prompt.chip_run (h : Prompt permits raise ends past dialogue) {responder : Bus.Responder σ}
    {chip : σ → Chip} (hbus : Reports responder chip) (state : σ) :
    chip (dialogue.run responder state).state =
      (dialogue.run responder state).exchanges.foldl carryOut (chip state) := by
  induction h generalizing state with
  | done _ => rfl
  | say _ _ ih => exact ih state
  | @ask _ order _ next _ hcall hfailed _ ih =>
    subst hcall
    rw [Dialogue.run_ask, Outcome.exchanges_after_answered, List.foldl_cons, ← hbus order state]
    cases hanswer : failure? order.call (responder order.call state).1 with
    | none => exact ih _ hanswer _
    | some error =>
      rw [hfailed _ error hanswer]
      rfl

/-- **If no transaction fails**, a prompt dialogue over a bus that fails cleanly is one with the
chip itself. -/
theorem Prompt.converse_of_unfailed (h : Prompt permits raise ends past dialogue)
    {responder : Bus.Responder σ} {chip : σ → Chip} (hbus : Bus.AllOrNothing responder chip)
    {state : σ} (hgood : ∀ exchange ∈ (dialogue.run responder state).exchanges,
      failure? exchange.1 exchange.2 = none) :
    ((dialogue.run responder state).value, chip (dialogue.run responder state).state) =
      (chip state).converse dialogue := by
  induction h generalizing state with
  | done _ => rfl
  | say _ _ ih => exact ih hgood
  | @ask _ order _ next _ hcall _ _ ih =>
    subst hcall
    rw [Dialogue.run_ask, Outcome.exchanges_after_answered, List.forall_mem_cons] at hgood
    obtain ⟨hfirst, hlater⟩ := hgood
    rcases hbus.carried_or_failed order.call state with ⟨hanswer, hafter⟩ | ⟨hfailed, -⟩
    · have hrest := ih _ hfirst hlater
      rw [hanswer, hafter] at hrest
      rw [Dialogue.run_ask, hanswer]
      exact hrest
    · exact absurd hfirst (failure?_ne_none_of_failed hfailed)

/-- So the chip is as some orders leave it, after which the dialogue has ended by itself or has met
its first failure. -/
theorem Prompt.chip_ending (h : Prompt permits raise ends [] dialogue)
    {responder : Bus.Responder σ} {chip : σ → Chip} (hbus : Reports responder chip) (state : σ) :
    let outcome := dialogue.run responder state
    ∃ orders : List Order, chip outcome.state = orders.foldl Order.carryOut (chip state) ∧
      (ends orders outcome.value ∨
        outcome.calls.length = orders.length + 1 ∧ ∃ order, permits orders order) := by
  intro outcome
  have hrun : chip outcome.state = outcome.exchanges.foldl carryOut (chip state) :=
    h.chip_run hbus state
  have hending : Ending permits raise ends [] outcome := h.ending responder state
  cases hending with
  | smooth orders hcarried hends =>
    exact ⟨orders, by rw [hrun, hcarried.foldl_carryOut], .inl hends⟩
  | broken orders before order answer error hexchanges hbefore hpermits hfailed hvalue =>
    refine ⟨orders, ?_, .inr ⟨?_, order, hpermits⟩⟩
    · rw [hrun, hexchanges, hbefore.foldl_carryOut_failed hfailed]
    · rw [Outcome.calls_eq, hexchanges, List.length_map, List.length_append, hbefore.length_eq]
      rfl

end Registers

end WiperDriver
