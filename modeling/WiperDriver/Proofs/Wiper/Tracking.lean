import WiperDriver.Proofs.Wiper.Restraint
import WiperDriver.Proofs.Wiper.Strategy

/-!
# Steps after a reading

A position read from the chip is bent into the range of the model before it is kept, while the
register stays as it is. Whether the known position then follows the register depends on how the
steps are carried out: a write sets both to the same position, but a burst moves each from where it
stands, and a register above the range and a position at its top do not move together.

`Standing` is where the two can be after some steps, in plain numbers, and `Paced` what one step can
do to them. `Standing.paced` is the step lemma, `standing_walk` the run lemma, and
`position_tracks_iff` says exactly when the position is the register as a reading would give it.
-/

namespace WiperDriver.Wiper

open Chip (Instruction)

/-! ## Readings -/

/-- A wiper whose position has just been read from a chip: control has been taken of it on a model
with EEPROM, or its position has been updated; its mode may have been changed since. -/
inductive JustRead (chip : Chip) : Wiper → Prop
  | started {model : Model} {channel : Channel} {mode : Mode} {initial : Int32} {wiper : Wiper}
    (hmodel : model.hasEeprom = true)
    (h : chip.converse (start model channel mode initial).run = (.ok wiper, chip)) :
    JustRead chip wiper
  | updated {before wiper : Wiper} {position : UInt16}
    (h : chip.converse (update.run.run before) = ((.ok position, wiper), chip)) :
    JustRead chip wiper
  | switched {before wiper : Wiper} {mode : Mode} (hbefore : JustRead chip before)
    (h : chip.converse ((setMode mode).run.run before) = ((.ok (), wiper), chip)) :
    JustRead chip wiper

/-- The position that a wiper takes from a reading of its register. -/
def reading (chip : Chip) (wiper : Wiper) : Nat :=
  min (chip.register wiper.channel.volatileSlot).toNat wiper.model.maxValue.toNat

theorem JustRead.position_eq {chip : Chip} {wiper : Wiper} (h : JustRead chip wiper) :
    wiper.position.toNat = wiper.reading chip := by
  induction h with
  | @started model channel mode initial wiper hmodel h =>
    rw [converse_start] at h
    split at h
    · cases h
    · cases h
    · simp only [hmodel, if_true] at h
      cases h
      exact toNat_withReading _ _
  | updated h =>
    rw [converse_update] at h
    cases h
    exact toNat_withReading _ _
  | @switched before wiper mode _ h ih =>
    rw [converse_setMode] at h
    split at h
    · cases h
      exact ih
    · cases h

/-! ## Steps -/

/-- Steps taken one after another; the first that fails is the last. -/
def walk : List (Direction × UInt32) → Program Unit
  | [] => pure ()
  | (direction, steps) :: moves => do
    step direction steps
    walk moves

/-- A walk is its first step and then the others. -/
theorem run_walk_cons (direction : Direction) (steps : UInt32) (moves : List (Direction × UInt32))
    (wiper : Wiper) :
    (walk ((direction, steps) :: moves)).run.run wiper =
      (step direction steps).run.run wiper >>= fun
        | (.ok (), after) => (walk moves).run.run after
        | (.error error, after) => .done (.error error, after) := by
  show ((step direction steps).run.run wiper).bind _ = _
  refine congrArg _ (funext fun ended => ?_)
  rcases ended with ⟨error | ⟨⟨⟩⟩, after⟩ <;> rfl

/-- A write of a register is among some transactions. -/
def Rewritten (calls : List Bus.Call) : Prop :=
  ∃ call ∈ calls, ∃ address high, Instruction.store address high ∈ call.commands

theorem rewritten_append {calls more : List Bus.Call} :
    Rewritten (calls ++ more) ↔ Rewritten calls ∨ Rewritten more := by
  simp only [Rewritten, List.mem_append, or_and_right, exists_or]

theorem not_rewritten_nil : ¬ Rewritten [] := by
  rintro ⟨_, h, -⟩
  cases h

/-- What a step can make of a register and a known position, in plain numbers, and what is sent for
it. -/
inductive Paced (limit top register position : Nat) : List Bus.Call → Nat → Nat → Prop
  | idle : Paced limit top register position [] register position
  | set {calls : List Bus.Call} (hcalls : Rewritten calls) (goal : Nat) (h : goal ≤ top) :
    Paced limit top register position calls goal goal
  | up {calls : List Bus.Call} (hsome : calls ≠ []) (hcalls : ¬ Rewritten calls) (count : Nat)
    (h : position + count < top) :
    Paced limit top register position calls (min (register + count) limit) (position + count)
  | down {calls : List Bus.Call} (hsome : calls ≠ []) (hcalls : ¬ Rewritten calls) (count : Nat)
    (hpos : 0 < count) (h : count < position) :
    Paced limit top register position calls (register - count) (position - count)

/-- What a run of steps on a chip of its own leaves of everything but the register and the known
position: it succeeds, and the rest of the wiper and the limit of the chip are as they were. -/
structure Walked (chip : Chip) (wiper : Wiper)
    (outcome : Outcome Bus.Call Bus.Answer Chip (Except Error Unit × Wiper)) : Prop where
  ok : outcome.value.1 = .ok ()
  wiper_eq : outcome.value.2 = { wiper with position := outcome.value.2.position }
  limit_eq : outcome.state.limit = chip.limit

section

variable {chip : Chip} {wiper : Wiper} {direction : Direction} {steps : UInt32}

theorem rewritten_write {position : UInt16} (h : position ≤ Registers.maxWord)
    (channel : Channel) : Rewritten [.write (writeBytes channel position)] := by
  have hcommands : Chip.commands (writeBytes channel position) = _ :=
    Chip.commands_write (Command.encode_of_le channel.volatileAddress_le .write) h
  refine ⟨_, List.mem_singleton_self _, Chip.slot channel.volatileAddress, 0xFF < position, ?_⟩
  rw [Bus.Call.commands, Bus.Call.bytes, hcommands]
  exact List.mem_singleton_self _

theorem not_rewritten_burst (channel : Channel) (direction : Direction) (count : Nat) :
    ¬ Rewritten [.write (List.replicate count (pulseCommand channel direction))] := by
  have hcommands : Chip.commands (List.replicate count (pulseCommand channel direction)) = _ :=
    Chip.commands_burst (Command.encode_of_le channel.volatileAddress_le _) count
  rintro ⟨_, hcall, address, high, hmem⟩
  rw [List.mem_singleton.1 hcall, Bus.Call.commands, Bus.Call.bytes, hcommands] at hmem
  cases List.eq_of_mem_replicate hmem

/-- A write of the volatile register sets it. -/
theorem respond_write {position : UInt16} (h : position ≤ Registers.maxWord) (channel : Channel)
    (chip : Chip) :
    Chip.respond (.write (writeBytes channel position)) chip =
      (.ok (), chip.setRegister channel.volatileSlot position) :=
  congrArg (Prod.mk _)
    (Chip.absorb_write (Command.encode_of_le channel.volatileAddress_le .write) h chip)

/-- A burst of pulses on it moves it. -/
theorem respond_burst {count : Nat} (h : 0 < count) (channel : Channel) (direction : Direction)
    (chip : Chip) :
    Chip.respond (.write (List.replicate count (pulseCommand channel direction))) chip =
      (.ok (), chip.setRegister channel.volatileSlot
        (Chip.swept chip.limit (chip.register channel.volatileSlot) count direction)) := by
  have hdecode : Chip.decode (pulseCommand channel direction) =
      .pulse channel.volatileSlot direction :=
    Chip.decode_pulse (Command.encode_of_le channel.volatileAddress_le _)
  refine congrArg (Prod.mk _) ((Chip.absorb_burst hdecode h chip).trans ?_)
  exact Chip.burst_of_none channel.flag?_volatileSlot chip direction count

/-- A burst that stays clear of the limit of its direction takes the position along by its length,
and the register as far as pulses take it. -/
theorem paced_burst (hrange : wiper.InRange) (hpos : 0 < steps.toNat)
    (hlt : steps.toNat < wiper.distance direction) (limit register : UInt16) :
    Paced limit.toNat wiper.model.maxValue.toNat register.toNat wiper.position.toNat
      [.write (List.replicate steps.toNat (pulseCommand wiper.channel direction))]
      (Chip.swept limit register steps.toNat direction).toNat
      (wiper.landing direction steps).toNat := by
  have hmoved := toNat_moved_reach hrange direction steps
  have hsome := List.cons_ne_nil
    (Bus.Call.write (List.replicate steps.toNat (pulseCommand wiper.channel direction))) []
  have hcalls := not_rewritten_burst wiper.channel direction steps.toNat
  rw [← toNat_room hrange] at hlt
  cases direction with
  | up =>
    rw [toNat_room_up hrange] at hlt
    have hgoal : (wiper.landing .up steps).toNat = wiper.position.toNat + steps.toNat := by
      rw [landing, hmoved]
      simp only
      omega
    rw [Chip.toNat_swept_up, hgoal]
    exact .up hsome hcalls steps.toNat (by omega)
  | down =>
    have hgoal : (wiper.landing .down steps).toNat = wiper.position.toNat - steps.toNat := hmoved
    rw [Chip.toNat_swept_down, hgoal]
    exact .down hsome hcalls steps.toNat hpos hlt

/-- **One step** on a chip of its own succeeds and sets the pace. -/
theorem walked_step (hrange : wiper.InRange) (hmode : wiper.mode = .volatileOnly)
    (direction : Direction) (steps : UInt32) (chip : Chip) :
    let slot := wiper.channel.volatileSlot
    let outcome := ((step direction steps).run.run wiper).run Chip.respond chip
    Walked chip wiper outcome ∧
      Paced chip.limit.toNat wiper.model.maxValue.toNat (chip.register slot).toNat
        wiper.position.toNat outcome.calls (outcome.state.register slot).toNat
        outcome.value.2.position.toNat := by
  by_cases hnone : steps = 0 ∨ wiper.distance direction = 0
  · rw [run_step_of_none hrange hmode hnone]
    exact ⟨⟨rfl, rfl, rfl⟩, .idle⟩
  by_cases hfar : maxBurst < steps ∨ wiper.distance direction ≤ steps.toNat
  · have hle := landing_le hrange direction steps
    have hfits := UInt16.le_trans hle (maxValue_le_maxWord wiper.model)
    rw [run_step_of_far hrange hmode hnone hfar]
    simp only [Dialogue.run_say, Dialogue.run_ask, respond_write hfits]
    refine ⟨⟨rfl, rfl, rfl⟩, ?_⟩
    show Paced _ _ _ _ [.write (writeBytes wiper.channel (wiper.landing direction steps))]
      ((chip.setRegister _ (wiper.landing direction steps)).register _).toNat
      (wiper.landing direction steps).toNat
    rw [Chip.register_setRegister_self]
    exact .set (rewritten_write hfits wiper.channel) _ (UInt16.le_iff_toNat_le.1 hle)
  · have hpos : 0 < steps.toNat := Nat.pos_of_ne_zero fun hz => hnone (.inl (UInt32.toNat_inj.1 hz))
    have hlt : steps.toNat < wiper.distance direction := Nat.not_le.1 fun hle => hfar (.inr hle)
    rw [run_step_of_near hrange hmode hnone hfar]
    simp only [Dialogue.run_say, Dialogue.run_ask, respond_burst hpos]
    refine ⟨⟨rfl, rfl, rfl⟩, ?_⟩
    show Paced _ _ _ _
      [.write (List.replicate steps.toNat (pulseCommand wiper.channel direction))]
      ((chip.setRegister _ (Chip.swept chip.limit _ steps.toNat direction)).register _).toNat
      (wiper.landing direction steps).toNat
    rw [Chip.register_setRegister_self]
    exact paced_burst hrange hpos hlt chip.limit _

end

/-! ## Where register and position can be -/

/-- Where a register and a known position can be after some steps, of which something is known from
the transactions that they took. -/
inductive Standing (top found : Nat) (past : List Bus.Call) : Nat → Nat → Prop
  /-- The two agree: the register was found in range, or has been written. -/
  | level (h : found ≤ top ∨ Rewritten past) {position : Nat} (hle : position ≤ top) :
    Standing top found past position position
  /-- The register was found above the range, and nothing has been sent to it. -/
  | untouched (h : top < found) (hpast : past = []) : Standing top found past found top
  /-- It was found there and has only seen bursts. -/
  | apart (h : top < found) (hpast : past ≠ []) (hnot : ¬ Rewritten past) {register position : Nat}
    (hlt : position < register) (htop : position < top)
    (hdrift : register - position ≤ found - top) :
    Standing top found past register position

variable {limit top found register position register' position' : Nat} {past calls : List Bus.Call}

/-- The known position is one of the model's. -/
theorem Standing.le_top (h : Standing top found past register position) : position ≤ top := by
  cases h with
  | level _ hle => exact hle
  | untouched => exact Nat.le_refl _
  | apart _ _ _ _ htop => exact Nat.le_of_lt htop

/-- **A step leads from one such place to another.** From where the two agree it moves them alike;
otherwise a burst moves them both by its length, unless the limit of the chip stops the register on
its way up, which only brings them nearer. -/
theorem Standing.paced (h : Standing top found past register position) (hlimit : top ≤ limit)
    (hpace : Paced limit top register position calls register' position') :
    Standing top found (past ++ calls) register' position' := by
  have hrewritten : Rewritten past → Rewritten (past ++ calls) := rewritten_append.2 ∘ .inl
  have hnothing (hcalls : ¬ Rewritten calls) (hnot : ¬ Rewritten past) :
      ¬ Rewritten (past ++ calls) := fun hmore => (rewritten_append.1 hmore).elim hnot hcalls
  cases hpace with
  | idle =>
    rw [List.append_nil]
    exact h
  | set hcalls _ hgoal => exact .level (.inr (rewritten_append.2 (.inr hcalls))) hgoal
  | up hsome hcalls count hlt =>
    have hmore : past ++ calls ≠ [] := List.append_ne_nil_of_right_ne_nil _ hsome
    cases h with
    | level h =>
      rw [Nat.min_eq_left (by omega)]
      exact .level (h.imp id hrewritten) (Nat.le_of_lt hlt)
    | untouched => omega
    | apart hfound _ hnot =>
      refine .apart hfound hmore (hnothing hcalls hnot) ?_ hlt ?_
      all_goals omega
  | down hsome hcalls count hpos hlt =>
    have hmore : past ++ calls ≠ [] := List.append_ne_nil_of_right_ne_nil _ hsome
    cases h with
    | level h hle => exact .level (h.imp id hrewritten) (by omega)
    | untouched hfound hpast =>
      refine .apart hfound hmore (hnothing hcalls (hpast ▸ not_rewritten_nil)) ?_ ?_ ?_
      all_goals omega
    | apart hfound _ hnot =>
      refine .apart hfound hmore (hnothing hcalls hnot) ?_ ?_ ?_
      all_goals omega

/-- What each of these places says of a reading of the register. -/
theorem Standing.tracks (h : Standing top found past register position) :
    (position = min register top ↔ found ≤ top ∨ past = [] ∨ Rewritten past) ∧
    (found ≤ top ∨ Rewritten past → position = register) ∧
    (¬ (found ≤ top ∨ past = [] ∨ Rewritten past) →
      position < register ∧ register - position ≤ found - top) := by
  cases h with
  | level h hle =>
    have hany : found ≤ top ∨ past = [] ∨ Rewritten past := h.imp id .inr
    exact ⟨⟨fun _ => hany, fun _ => (Nat.min_eq_left hle).symm⟩, fun _ => rfl,
      fun hnot => absurd hany hnot⟩
  | untouched habove hpast =>
    refine ⟨⟨fun _ => .inr (.inl hpast), fun _ => by omega⟩, fun hor => ?_, fun hnot => ?_⟩
    · rw [hpast] at hor
      exact hor.elim (fun hle => by omega) fun h => absurd h not_rewritten_nil
    · exact absurd (.inr (.inl hpast)) hnot
  | apart habove hsome hnot hlt htop hdrift =>
    have hnone : ¬ (found ≤ top ∨ past = [] ∨ Rewritten past) := by
      rintro (hle | hpast | hrewritten)
      · omega
      · exact hsome hpast
      · exact hnot hrewritten
    exact ⟨⟨fun heq => by omega, fun hany => absurd hany hnone⟩,
      fun hor => absurd (hor.imp id .inr) hnone, fun _ => ⟨hlt, hdrift⟩⟩

/-! ## Walks -/

/-- **Any number of steps** on a chip of its own succeed, and lead from such a place to another. -/
theorem standing_walk (moves : List (Direction × UInt32)) {chip : Chip} {wiper : Wiper}
    (hrange : wiper.InRange) (hmode : wiper.mode = .volatileOnly)
    (hlimit : wiper.model.maxValue ≤ chip.limit)
    (h : Standing wiper.model.maxValue.toNat found past
      (chip.register wiper.channel.volatileSlot).toNat wiper.position.toNat) :
    let outcome := ((walk moves).run.run wiper).run Chip.respond chip
    Walked chip wiper outcome ∧
      Standing wiper.model.maxValue.toNat found (past ++ outcome.calls)
        (outcome.state.register wiper.channel.volatileSlot).toNat
        outcome.value.2.position.toNat := by
  induction moves generalizing chip wiper past with
  | nil =>
    refine ⟨⟨rfl, rfl, rfl⟩, ?_⟩
    show Standing _ _ (past ++ []) _ _
    rw [List.append_nil]
    exact h
  | cons move moves ih =>
    obtain ⟨direction, steps⟩ := move
    obtain ⟨⟨hok, hwiper, hlimit'⟩, hpace⟩ := walked_step hrange hmode direction steps chip
    have hstanding := h.paced (UInt16.le_iff_toNat_le.1 hlimit) hpace
    rw [run_walk_cons, Dialogue.run_bind]
    generalize ((step direction steps).run.run wiper).run Chip.respond chip = first at *
    obtain ⟨⟨result, after⟩, chip', events⟩ := first
    obtain ⟨position, rfl⟩ : ∃ position, after = { wiper with position } := ⟨_, hwiper⟩
    cases hok
    have hlimit'' : wiper.model.maxValue ≤ chip'.limit := UInt16.le_trans hlimit
      (UInt16.le_of_eq (Eq.symm hlimit'))
    have hrange' : InRange { wiper with position } :=
      UInt16.le_iff_toNat_le.2 hstanding.le_top
    obtain ⟨⟨hok, hwiper, hsame⟩, hrest⟩ := ih hrange' hmode hlimit'' hstanding
    refine ⟨⟨hok, hwiper, hsame.trans hlimit'⟩, ?_⟩
    rw [List.append_assoc] at hrest
    rw [Outcome.calls, List.filterMap_append]
    exact hrest

/-! ## The result -/

/-- A wiper that has just been read stands at the register, or at the top of its range if that is
lower. -/
theorem JustRead.standing {chip : Chip} {wiper : Wiper} (h : JustRead chip wiper) :
    Standing wiper.model.maxValue.toNat (chip.register wiper.channel.volatileSlot).toNat []
      (chip.register wiper.channel.volatileSlot).toNat wiper.position.toNat := by
  rw [h.position_eq, reading]
  rcases Nat.lt_or_ge wiper.model.maxValue.toNat
    (chip.register wiper.channel.volatileSlot).toNat with habove | hwithin
  · rw [Nat.min_eq_right (Nat.le_of_lt habove)]
    exact .untouched habove rfl
  · rw [Nat.min_eq_left hwithin]
    exact .level (.inl hwithin) hwithin

theorem JustRead.inRange {chip : Chip} {wiper : Wiper} (h : JustRead chip wiper) :
    wiper.InRange := by
  rw [InRange, UInt16.le_iff_toNat_le, h.position_eq]
  exact Nat.min_le_right _ _

/-- **When the known position tracks the register.** After a reading of any content, on a chip of
its own whose pulses reach as far as the model's highest position, any sequence of steps succeeds,
and at its end the known position is what a reading would give if and only if the register was found
in range, or nothing has been sent to it, or it has been written at least once. In the first and the
last case the two are the same. In any other the register stands above the known position, by no
more than it was found above the range. -/
theorem position_tracks_iff {chip : Chip} {wiper : Wiper} (hread : JustRead chip wiper)
    (hmode : wiper.mode = .volatileOnly) (hlimit : wiper.model.maxValue ≤ chip.limit)
    (moves : List (Direction × UInt32)) :
    let slot := wiper.channel.volatileSlot
    let top := wiper.model.maxValue.toNat
    let found := (chip.register slot).toNat
    let outcome := ((walk moves).run.run wiper).run Chip.respond chip
    let register := (outcome.state.register slot).toNat
    let position := outcome.value.2.position.toNat
    outcome.value.1 = .ok () ∧
    (position = min register top ↔
      found ≤ top ∨ outcome.calls = [] ∨ Rewritten outcome.calls) ∧
    (found ≤ top ∨ Rewritten outcome.calls → position = register) ∧
    (¬ (found ≤ top ∨ outcome.calls = [] ∨ Rewritten outcome.calls) →
      position < register ∧ register - position ≤ found - top) := by
  obtain ⟨hwalked, hstanding⟩ := standing_walk moves hread.inRange hmode hlimit hread.standing
  exact ⟨hwalked.ok, hstanding.tracks⟩

/-- A register that was found at 300, above the 256 of its model: a burst of two down and one of one
up part it from the known position, as long as there is no write. -/
theorem position_tracks_iff_of_bursts :
    let chip : Chip := ⟨.replicate 16 300, 511⟩
    let wiper : Wiper := ⟨.mcp4461, .a, .volatileOnly, 256⟩
    let outcome := ((walk [(.down, 2), (.up, 1)]).run.run wiper).run Chip.respond chip
    JustRead chip wiper ∧ outcome.value.2.position = 255 ∧ outcome.state.register 0 = 299 ∧
      ¬ Rewritten outcome.calls := by
  intro chip wiper outcome
  have hstart : chip.converse (start .mcp4461 .a .volatileOnly 0).run = (.ok wiper, chip) := by
    rw [converse_start]
    rfl
  have hread : JustRead chip wiper := .started rfl hstart
  have hposition : outcome.value.2.position = 255 := by decide +kernel
  have hregister : outcome.state.register 0 = 299 := by decide +kernel
  obtain ⟨-, htracks, -⟩ := position_tracks_iff hread rfl (by decide) [(.down, 2), (.up, 1)]
  have hnot : outcome.value.2.position.toNat ≠ min (outcome.state.register 0).toNat 256 := by
    rw [hposition, hregister]
    decide
  exact ⟨hread, hposition, hregister, fun hwritten => hnot (htracks.2 (.inr (.inr hwritten)))⟩

/-- **A position that has been read need not track the register.** Control is taken of a wiper whose
register is at 300, and one step down leaves the register at 299, of which a reading would make 256,
and the known position at 255. -/
theorem not_position_tracks :
    ¬ ∀ (chip : Chip) (wiper : Wiper), JustRead chip wiper → wiper.mode = .volatileOnly →
      wiper.model.maxValue ≤ chip.limit → ∀ moves : List (Direction × UInt32),
        let outcome := ((walk moves).run.run wiper).run Chip.respond chip
        outcome.value.1 = .ok () → outcome.value.2.position.toNat =
          min (outcome.state.register wiper.channel.volatileSlot).toNat
            wiper.model.maxValue.toNat := by
  intro htracks
  let chip : Chip := ⟨(Vector.replicate 16 0).set 0 300, 256⟩
  let wiper : Wiper := ⟨.mcp4461, .a, .volatileOnly, 256⟩
  have hstart : chip.converse (start .mcp4461 .a .volatileOnly 0).run = (.ok wiper, chip) := by
    rw [converse_start]
    rfl
  have hread : JustRead chip wiper := .started rfl hstart
  have hlimit : wiper.model.maxValue ≤ chip.limit := by decide
  obtain ⟨⟨hok, -, -⟩, -⟩ := standing_walk [(.down, 1)] hread.inRange rfl hlimit hread.standing
  have hstep := htracks chip wiper hread rfl hlimit [(.down, 1)] hok
  revert hstep
  decide +kernel

end WiperDriver.Wiper
