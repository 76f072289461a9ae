import WiperDriver.Proofs.Terminals
import WiperDriver.Proofs.Wiper.Orders

/-!
# What no bus can bring about

`Reachable` are the wipers that can come about: one that control has been taken of, and what any
operations have made of it, each over a bus that answers as it likes. `Sound` is the invariant that
they all have, and `reachable_safe` what follows from it: the arithmetic of 16-bit numbers never
wraps around and no conversion loses a bit (`Exact`), and the argument checks of the register
operations have nothing to refuse, but for a terminal control word that is too wide, which is found
before anything is written.
-/

namespace WiperDriver.Wiper

open Registers (Order)

variable {σ : Type} {model : Model} {channel : Channel} {wiper : Wiper}

/-- A wiper that can come about under some buses. No two operations need meet the same one. -/
inductive Reachable (model : Model) (channel : Channel) : Wiper → Prop
  /-- Control has been taken of it. -/
  | started {σ : Type} (responder : Bus.Responder σ) (state : σ) (mode : Mode) (initial : Int32)
    {wiper : Wiper}
    (h : ((start model channel mode initial).run.run responder state).value = .ok wiper) :
    Reachable model channel wiper
  /-- An operation has been performed, and has succeeded or failed. -/
  | performed {σ : Type} (responder : Bus.Responder σ) (state : σ) (operation : Operation)
    {wiper : Wiper} (h : Reachable model channel wiper) :
    Reachable model channel (attempt responder operation wiper state).value.2

/-! ## The invariant -/

/-- A wiper of a certain channel whose position and mode are ones that its model has. -/
structure Sound (model : Model) (channel : Channel) (wiper : Wiper) : Prop where
  model_eq : wiper.model = model
  channel_eq : wiper.channel = channel
  inRange : wiper.InRange
  mode : wiper.mode = .volatileOnly ∨ model.hasEeprom = true

/-- A position that steps lead to is one that the model has. -/
theorem moved_le_maxValue (hrange : wiper.InRange) {direction : Direction} {count : UInt16}
    (hcount : count ≤ wiper.room direction) :
    wiper.moved direction count ≤ wiper.model.maxValue := by
  have hrange' := UInt16.le_iff_toNat_le.1 hrange
  rw [UInt16.le_iff_toNat_le]
  cases direction with
  | up =>
    have hroom := UInt16.le_iff_toNat_le.1 hcount
    rw [toNat_room_up hrange] at hroom
    rw [toNat_moved_up hrange hcount]
    omega
  | down =>
    rw [toNat_moved_down hcount]
    omega

/-- What a successful operation makes of a sound wiper is sound. -/
theorem Leaves.sound {after : Wiper} (h : Leaves wiper after) (hsound : Sound model channel wiper) :
    Sound model channel after := by
  obtain ⟨hmodel, hchannel, hrange, hmode⟩ := hsound
  cases h with
  | kept => exact ⟨hmodel, hchannel, hrange, hmode⟩
  | mode mode hadmitted =>
    refine ⟨hmodel, hchannel, hrange, ?_⟩
    rw [← hmodel]
    exact Model.checkMode_eq_ok_iff.1 hadmitted
  | read value => exact ⟨hmodel, hchannel, Std.min_le_right, hmode⟩
  | moved target => exact ⟨hmodel, hchannel, wiper.clamp_le target, hmode⟩
  | burst direction count hcount =>
    exact ⟨hmodel, hchannel, moved_le_maxValue hrange hcount, hmode⟩

/-- An operation leaves a sound wiper sound, whatever the bus does. -/
theorem attempt_sound (hsound : Sound model channel wiper) (responder : Bus.Responder σ)
    (state : σ) (operation : Operation) :
    Sound model channel (attempt responder operation wiper state).value.2 := by
  cases attempt_ending responder operation wiper state with
  | smooth orders _ hends =>
    unfold Ends at hends
    split at hends
    · exact hends.sound hsound
    · rw [hends.2]
      exact hsound
  | broken _ _ _ _ _ _ _ _ _ hvalue =>
    rw [hvalue]
    exact hsound

/-- Control is taken of sound wipers only. -/
theorem start_sound {responder : Bus.Responder σ} {state : σ} {mode : Mode} {initial : Int32}
    (h : ((start model channel mode initial).run.run responder state).value = .ok wiper) :
    Sound model channel wiper := by
  cases (prompt_start model channel mode initial).ending responder state with
  | smooth orders _ hends =>
    rw [h] at hends
    obtain ⟨hmode, position, hposition, rfl⟩ := hends
    exact ⟨rfl, rfl, hposition, Model.checkMode_eq_ok_iff.1 hmode⟩
  | broken _ _ _ _ _ _ _ _ _ hvalue =>
    rw [h] at hvalue
    cases hvalue

/-- **Every wiper that can come about is sound.** -/
theorem reachable_sound (h : Reachable model channel wiper) : Sound model channel wiper := by
  induction h with
  | started _ _ _ _ h => exact start_sound h
  | performed responder state operation _ ih => exact attempt_sound ih responder state operation

/-! ## Arithmetic -/

/-- All that is computed in taking steps and in moving to a target is what the integers say: no sum
or difference of 16-bit numbers wraps around, and no conversion to fewer bits loses any. -/
structure Exact (wiper : Wiper) : Prop where
  /-- The way up, a difference. -/
  room_up : ((wiper.room .up).toNat : Int) = wiper.model.maxValue.toNat - wiper.position.toNat
  /-- The number of steps that are taken, cut to 16 bits. -/
  reach : ∀ direction steps,
    (wiper.reach direction steps).toNat = min steps.toNat (wiper.room direction).toNat
  /-- The position above, a sum. -/
  moved_up : ∀ steps, ((wiper.moved .up (wiper.reach .up steps)).toNat : Int) =
    wiper.position.toNat + (wiper.reach .up steps).toNat
  /-- The position below, a difference. -/
  moved_down : ∀ steps, ((wiper.moved .down (wiper.reach .down steps)).toNat : Int) =
    wiper.position.toNat - (wiper.reach .down steps).toNat
  /-- The nearest position to a target, cut to 16 bits. -/
  clamp : ∀ target : Int32, ((wiper.clamp target).toNat : Int) =
    min (max target.toInt 0) wiper.model.maxValue.toNat

/-- **Nothing wraps around while the position is in range.** -/
theorem exact_of_inRange (h : wiper.InRange) : Exact wiper where
  room_up := by
    have hle := UInt16.le_iff_toNat_le.1 h
    rw [toNat_room_up h]
    omega
  reach := wiper.toNat_reach
  moved_up steps := by
    rw [toNat_moved_up h (reach_le_room wiper .up steps)]
    omega
  moved_down steps := by
    have hle := reach_le_room wiper .down steps
    have hle' : (wiper.reach .down steps).toNat ≤ wiper.position.toNat :=
      UInt16.le_iff_toNat_le.1 hle
    rw [toNat_moved_down hle]
    omega
  clamp target := by
    rw [toNat_clamp]
    omega

/-! ## Argument checks -/

/-- The errors of the argument checks of the register operations. -/
inductive ArgumentError : Error → Prop
  | address (address : UInt8) : ArgumentError (.invalidAddress address)
  | steps (steps : Int32) : ArgumentError (.stepsOutOfRange steps)
  | value (value : UInt16) : ArgumentError (.valueOutOfRange value)

theorem ArgumentError.not_fromBus {error : Error} (h : ArgumentError error) : ¬ error.FromBus := by
  cases h <;> exact id

/-- Taking control never fails an argument check. -/
theorem start_not_argumentError {responder : Bus.Responder σ} {state : σ} {mode : Mode}
    {initial : Int32} {error : Error}
    (h : ((start model channel mode initial).run.run responder state).value = .error error) :
    ¬ ArgumentError error := by
  intro hargument
  cases (prompt_start model channel mode initial).ending responder state with
  | smooth orders _ hends =>
    rw [h] at hends
    rcases hends.error_eq with rfl | rfl <;> cases hargument
  | broken _ _ _ _ _ _ _ _ hfailed hvalue =>
    rw [h] at hvalue
    cases hvalue
    exact hargument.not_fromBus (Bus.fromBus_of_failure? hfailed)

/-- An operation fails no argument check but one: the word that a change of terminals is to write
has to fit the register. -/
theorem setTerminals_of_argumentError {responder : Bus.Responder σ} {state : σ}
    {operation : Operation} {error : Error}
    (h : (attempt responder operation wiper state).value.1 = .error error)
    (hargument : ArgumentError error) :
    ∃ setting word, operation = .setTerminals setting ∧ setting.channel = wiper.channel ∧
      error = .valueOutOfRange (setting.applyTo word) := by
  cases attempt_ending responder operation wiper state with
  | smooth orders _ hends =>
    unfold Ends at hends
    rw [h] at hends
    cases hends.1 with
    | word setting word hchannel => exact ⟨setting, word, rfl, hchannel, rfl⟩
    | mode | eeprom | status | channel => cases hargument
  | broken _ _ _ _ _ _ _ _ hfailed hvalue =>
    rw [hvalue] at h
    cases h
    exact absurd (Bus.fromBus_of_failure? hfailed) hargument.not_fromBus

/-- The bus answers a look at the terminal control register of a channel with a word, all its bytes
included. -/
def Delivers (responder : Bus.Responder σ) (state : σ) (channel : Channel) (word : UInt16) : Prop :=
  ∃ reading, (responder (Order.read channel.terminalAddress).call state).1 = .ok reading ∧
    reading.count = Registers.wordLength ∧ Registers.word reading = word

/-- A change of terminals fails the check of its word exactly if the word that was read is too wide
for the register, and then it has asked for that word and nothing else. -/
theorem setTerminals_valueOutOfRange_iff {setting : Terminals}
    (hchannel : setting.channel = wiper.channel) (responder : Bus.Responder σ) (state : σ)
    (value : UInt16) :
    let outcome := attempt responder (.setTerminals setting) wiper state
    (outcome.value.1 = .error (.valueOutOfRange value) ↔
      ∃ word, Delivers responder state wiper.channel word ∧ Registers.maxWord < word ∧
        value = setting.applyTo word) ∧
    (outcome.value.1 = .error (.valueOutOfRange value) →
      outcome.calls = [(Order.read wiper.channel.terminalAddress).call]) := by
  unfold attempt Operation.perform Delivers
  rw [run_wrap, run_setTerminals, if_pos hchannel, Registers.run_setTerminals, hchannel,
    Registers.run_read_of_le wiper.channel.terminalAddress_le]
  simp only [Dialogue.ask_bind, Dialogue.map_ask, Dialogue.run_ask]
  generalize (responder (Order.read wiper.channel.terminalAddress).call state).2 = after
  generalize (responder (Order.read wiper.channel.terminalAddress).call state).1 = answer
  rcases answer with failure | reading
  · refine ⟨⟨nofun, ?_⟩, nofun⟩
    rintro ⟨_, ⟨_, ⟨⟩, _⟩, _⟩
  by_cases hcount : reading.count = Registers.wordLength
  · simp only [hcount, if_true, Dialogue.say_bind, Dialogue.done_bind]
    by_cases hfits : setting.applyTo (Registers.word reading) ≤ Registers.maxWord
    · rw [Registers.run_write_of_le wiper.channel.terminalAddress_le hfits]
      have hwritten : ∀ answer : Except Failure Unit,
          (answer.mapError Error.io).map (fun _ => Result.done) ≠
            .error (.valueOutOfRange value) := by
        rintro (_ | _) <;> exact nofun
      refine ⟨⟨fun h => absurd h (hwritten _), ?_⟩, fun h => absurd h (hwritten _)⟩
      rintro ⟨_, ⟨_, ⟨⟩, _, rfl⟩, hwide, _⟩
      exact absurd ((setting.applyTo_le_maxWord _).1 hfits) (UInt16.not_le.2 hwide)
    · rw [Registers.run_write_of_not_le hfits]
      have hwide := UInt16.not_le.1 (mt (setting.applyTo_le_maxWord _).2 hfits)
      refine ⟨⟨fun h => ?_, ?_⟩, fun _ => rfl⟩
      · cases h
        exact ⟨_, ⟨reading, rfl, hcount, rfl⟩, hwide, rfl⟩
      · rintro ⟨_, ⟨_, ⟨⟩, _, rfl⟩, _, rfl⟩
        rfl
  · simp only [hcount, if_false]
    refine ⟨⟨nofun, ?_⟩, nofun⟩
    rintro ⟨_, ⟨_, ⟨⟩, hcount', _⟩, _⟩
    exact absurd hcount' hcount

/-- Only a change of the terminals of the own channel fails the check of a value, for the reason
given by `setTerminals_valueOutOfRange_iff`. -/
theorem valueOutOfRange_iff (responder : Bus.Responder σ) (state : σ) (operation : Operation)
    (value : UInt16) :
    (attempt responder operation wiper state).value.1 = .error (.valueOutOfRange value) ↔
      ∃ setting word, operation = .setTerminals setting ∧ setting.channel = wiper.channel ∧
        Delivers responder state wiper.channel word ∧ Registers.maxWord < word ∧
          value = setting.applyTo word := by
  constructor
  · intro h
    obtain ⟨setting, _, rfl, hchannel, _⟩ := setTerminals_of_argumentError h (.value value)
    obtain ⟨word, hword, hwide, hvalue⟩ :=
      (setTerminals_valueOutOfRange_iff hchannel responder state value).1.1 h
    exact ⟨setting, word, rfl, hchannel, hword, hwide, hvalue⟩
  · rintro ⟨setting, word, rfl, hchannel, hword, hwide, hvalue⟩
    exact (setTerminals_valueOutOfRange_iff hchannel responder state value).1.2
      ⟨word, hword, hwide, hvalue⟩

/-! ## The result -/

/-- **No bus can bring a wiper out of range, or the driver to a nonsensical request.** Whatever
answered when control was taken, and at every operation since:

* the position is one of the model, and the mode one that it admits;
* no 16-bit sum or difference of a step wraps around, and no conversion loses a bit;
* neither taking control nor any operation, with any arguments, asks the registers for an address or
  a number of pulses that they refuse;
* a value that they refuse comes from a change of terminals only, exactly when the bus delivers a
  terminal control word, of two bytes, that no register can hold; nothing is written then. -/
theorem reachable_safe (h : Reachable model channel wiper) :
    Sound model channel wiper ∧ Exact wiper ∧
    (∀ {σ : Type} (responder : Bus.Responder σ) (state : σ) (mode : Mode) (initial : Int32)
      (error : Error),
      ((start model channel mode initial).run.run responder state).value = .error error →
        ¬ ArgumentError error) ∧
    ∀ {σ : Type} (responder : Bus.Responder σ) (state : σ) (operation : Operation),
      let outcome := attempt responder operation wiper state
      (∀ address, outcome.value.1 ≠ .error (.invalidAddress address)) ∧
      (∀ steps, outcome.value.1 ≠ .error (.stepsOutOfRange steps)) ∧
      (∀ value, outcome.value.1 = .error (.valueOutOfRange value) ↔
        ∃ setting word, operation = .setTerminals setting ∧ setting.channel = channel ∧
          Delivers responder state channel word ∧ Registers.maxWord < word ∧
            value = setting.applyTo word) ∧
      ∀ value, outcome.value.1 = .error (.valueOutOfRange value) →
        outcome.calls = [(Order.read channel.terminalAddress).call] := by
  have hsound := reachable_sound h
  obtain rfl := hsound.channel_eq
  refine ⟨hsound, exact_of_inRange hsound.inRange,
    fun _ _ _ _ _ hstart => start_not_argumentError hstart, fun responder state operation => ?_⟩
  refine ⟨fun address herror => ?_, fun steps herror => ?_,
    valueOutOfRange_iff responder state operation, fun value herror => ?_⟩
  · obtain ⟨_, _, _, _, heq⟩ := setTerminals_of_argumentError herror (.address address)
    cases heq
  · obtain ⟨_, _, _, _, heq⟩ := setTerminals_of_argumentError herror (.steps steps)
    cases heq
  · obtain ⟨setting, _, rfl, hchannel, _⟩ := setTerminals_of_argumentError herror (.value value)
    exact (setTerminals_valueOutOfRange_iff hchannel responder state value).2 herror

/-- A bus that accepts everything and delivers nothing but ones: the wiper starts at the top, three
steps down are an exact difference, and a change of terminals is refused after its look. -/
theorem reachable_safe_of_ones :
    let ones : Bus.Responder Unit := fun call _ => (match call with
      | .write _ => .ok ()
      | .writeRead _ _ => .ok ⟨2, [0xFF, 0xFF]⟩, ())
    let wiper : Wiper := ⟨.mcp4661, .b, .volatileOnly, 253⟩
    let outcome := attempt ones (.setTerminals ⟨.b, false, false, false, false⟩) wiper ()
    Reachable .mcp4661 .b wiper ∧ wiper.InRange ∧
      outcome.value.1 = .error (.valueOutOfRange 0xFF0F) ∧
        outcome.calls = [(Order.read Channel.b.terminalAddress).call] := by
  intro ones wiper outcome
  have htop : Reachable .mcp4661 .b ⟨.mcp4661, .b, .volatileOnly, 256⟩ :=
    .started ones () .volatileOnly 0 (by rfl)
  have hreachable : Reachable .mcp4661 .b wiper := .performed ones () (.decreaseBy 3) htop
  obtain ⟨hsound, -, -, hsafe⟩ := reachable_safe hreachable
  have herror : outcome.value.1 = .error (.valueOutOfRange 0xFF0F) := by rfl
  exact ⟨hreachable, hsound.inRange, herror, (hsafe ones () _).2.2.2 _ herror⟩

end WiperDriver.Wiper
