import WiperDriver.Proofs.Wiper.Tracking
import Mathlib.Algebra.BigOperators.Group.List.Basic
import Mathlib.Algebra.Ring.Nat

/-!
# Steps in one direction compose

However a move is cut into steps, it leads to the same place. The parts can be carried out in quite
different ways: a long move is one write where its parts are bursts, and a part of it that starts at
the limit is nothing at all. `Progress` is what all of them have in common, `progress_step` the step
lemma and `progress_march` the run lemma; it is put together by `Progress.append`, since bounded
moves in one direction add up (`advanced_advanced`).
-/

namespace WiperDriver.Wiper

/-! ## Bounded moves -/

/-- Where a move leads from a position that can be no higher than a top, in plain numbers. -/
def advanced (top position : Nat) : Direction → Nat → Nat
  | .up, total => min (position + total) top
  | .down, total => position - total

theorem advanced_zero {top position : Nat} (h : position ≤ top) (direction : Direction) :
    advanced top position direction 0 = position := by
  cases direction with
  | up => exact Nat.min_eq_left h
  | down => rfl

theorem advanced_le {top position : Nat} (h : position ≤ top) (direction : Direction)
    (total : Nat) : advanced top position direction total ≤ top := by
  cases direction with
  | up => exact Nat.min_le_right _ _
  | down => exact Nat.le_trans (Nat.sub_le _ _) h

/-- One move after another is the move by their sum. -/
theorem advanced_advanced (top position : Nat) (direction : Direction) (first second : Nat) :
    advanced top (advanced top position direction first) direction second =
      advanced top position direction (first + second) := by
  cases direction with
  | up =>
    simp only [advanced]
    omega
  | down => exact Nat.sub_sub _ _ _

/-- Beyond the width of the range it makes no difference how far a move goes. -/
theorem advanced_min {top position bound : Nat} (h : position ≤ top) (hbound : top ≤ bound)
    (direction : Direction) (total : Nat) :
    advanced top position direction (min total bound) = advanced top position direction total := by
  cases direction <;>
  · simp only [advanced]
    omega

/-! ## Progress -/

/-- A wiper that can be stepped on a chip that is its own, and whose pulses reach as far as the
model's highest position. -/
structure Ready (chip : Chip) (wiper : Wiper) : Prop where
  inRange : wiper.InRange
  mode : wiper.mode = .volatileOnly
  limit : wiper.model.maxValue ≤ chip.limit

/-- What steps in one direction that come to a total make of a wiper and of a chip of its own, no
matter how many steps they are and how they are carried out. -/
structure Progress (direction : Direction) (total : Nat) (chip : Chip) (wiper : Wiper)
    (outcome : Outcome Bus.Call Bus.Answer Chip (Except Error Unit × Wiper)) : Prop where
  ok : outcome.value.1 = .ok ()
  wiper_eq : outcome.value.2 = { wiper with position := outcome.value.2.position }
  /-- The known position has moved by the total, as far as the range allows. -/
  position_eq : outcome.value.2.position.toNat =
    advanced wiper.model.maxValue.toNat wiper.position.toNat direction total
  /-- Nothing but the volatile register of the channel has changed. -/
  state_eq : outcome.state = chip.setRegister wiper.channel.volatileSlot
    (outcome.state.register wiper.channel.volatileSlot)
  /-- The register is at the known position if it was before, or if it has been written. -/
  level : chip.register wiper.channel.volatileSlot = wiper.position ∨ Rewritten outcome.calls →
    outcome.state.register wiper.channel.volatileSlot = outcome.value.2.position

variable {direction : Direction} {chip : Chip} {wiper : Wiper}

/-- Standing still is progress by nothing. -/
theorem progress_none (hrange : wiper.InRange) (direction : Direction) (chip : Chip) :
    Progress direction 0 chip wiper ⟨(.ok (), wiper), chip, []⟩ where
  ok := rfl
  wiper_eq := rfl
  position_eq := (advanced_zero (UInt16.le_iff_toNat_le.1 hrange) direction).symm
  state_eq := (Chip.setRegister_register chip _).symm
  level h := h.resolve_right not_rewritten_nil

/-- After some progress there can be more. -/
theorem Progress.ready {total : Nat}
    {outcome : Outcome Bus.Call Bus.Answer Chip (Except Error Unit × Wiper)}
    (h : Progress direction total chip wiper outcome) (hready : Ready chip wiper) :
    Ready outcome.state outcome.value.2 := by
  rw [h.wiper_eq, h.state_eq]
  refine ⟨?_, hready.mode, ?_⟩
  · rw [InRange, UInt16.le_iff_toNat_le, h.position_eq]
    exact advanced_le (UInt16.le_iff_toNat_le.1 hready.inRange) direction total
  · rw [Chip.limit_setRegister]
    exact hready.limit

/-- **Progress adds up.** -/
theorem Progress.append {first second : Nat}
    {one other : Outcome Bus.Call Bus.Answer Chip (Except Error Unit × Wiper)}
    (h : Progress direction first chip wiper one)
    (h' : Progress direction second one.state one.value.2 other) :
    Progress direction (first + second) chip wiper
      { other with events := one.events ++ other.events } := by
  have hchannel : one.value.2.channel = wiper.channel := by rw [h.wiper_eq]
  have hmodel : one.value.2.model = wiper.model := by rw [h.wiper_eq]
  obtain ⟨hok, hwiper, hposition, hstate, hlevel⟩ := h'
  rw [hchannel] at hstate hlevel
  refine ⟨hok, ?_, ?_, ?_, fun hor => hlevel ?_⟩
  · rw [h.wiper_eq] at hwiper
    exact hwiper
  · rw [hmodel, h.position_eq, advanced_advanced] at hposition
    exact hposition
  · rw [h.state_eq, Chip.setRegister_setRegister] at hstate
    exact hstate
  · rw [Outcome.calls, List.filterMap_append] at hor
    rcases hor with hbefore | hwritten
    · exact .inl (h.level (.inl hbefore))
    · exact (rewritten_append.1 hwritten).imp_left fun hfirst => h.level (.inr hfirst)

/-! ## Steps -/

section
variable (hready : Ready chip wiper)
include hready

/-- A step that ends where it leads to, whatever has become of the register if that was not at the
known position, is progress by its length. -/
theorem progress_of_landing {steps : UInt32} {word : UInt16}
    {outcome : Outcome Bus.Call Bus.Answer Chip (Except Error Unit × Wiper)}
    (hvalue : outcome.value = (.ok (), { wiper with position := wiper.landing direction steps }))
    (hstate : outcome.state = chip.setRegister wiper.channel.volatileSlot word)
    (hlevel : chip.register wiper.channel.volatileSlot = wiper.position ∨
      Rewritten outcome.calls → word = wiper.landing direction steps) :
    Progress direction steps.toNat chip wiper outcome := by
  have hself : outcome.state.register wiper.channel.volatileSlot = word := by
    rw [hstate]
    exact Chip.register_setRegister_self chip _ word
  refine ⟨by rw [hvalue], by rw [hvalue], ?_, by rw [hself, hstate], fun hor => ?_⟩
  · rw [hvalue]
    refine (toNat_moved_reach hready.inRange direction steps).trans ?_
    cases direction <;> rfl
  · rw [hself, hvalue]
    exact hlevel hor

/-- **One step** is progress by its length. -/
theorem progress_step (direction : Direction) (steps : UInt32) :
    Progress direction steps.toNat chip wiper
      (((step direction steps).run.run wiper).run Chip.respond chip) := by
  have ⟨hrange, hmode, hlimit⟩ := hready
  by_cases hnone : steps = 0 ∨ wiper.distance direction = 0
  · have hstill : wiper.landing direction steps = wiper.position :=
      moved_reach_of_none (hnone.imp id (room_eq_zero_iff hrange).2)
    rw [run_step_of_none hrange hmode hnone]
    refine progress_of_landing hready ?_ (Chip.setRegister_register chip _).symm fun hor => ?_
    · rw [hstill]
      rfl
    · rw [hstill]
      exact hor.resolve_right not_rewritten_nil
  by_cases hfar : maxBurst < steps ∨ wiper.distance direction ≤ steps.toNat
  · have hfits := UInt16.le_trans (landing_le hrange direction steps)
      (maxValue_le_maxWord wiper.model)
    rw [run_step_of_far hrange hmode hnone hfar]
    simp only [Dialogue.run_say, Dialogue.run_ask, respond_write hfits]
    exact progress_of_landing hready rfl rfl fun _ => rfl
  · have hpos : 0 < steps.toNat := Nat.pos_of_ne_zero fun hz => hnone (.inl (UInt32.toNat_inj.1 hz))
    have hlt : steps.toNat < wiper.distance direction := Nat.not_le.1 fun hle => hfar (.inr hle)
    have hreach : (wiper.reach direction steps).toNat = steps.toNat := by
      rw [toNat_reach, toNat_room hrange, Nat.min_eq_left (Nat.le_of_lt hlt)]
    rw [run_step_of_near hrange hmode hnone hfar]
    simp only [Dialogue.run_say, Dialogue.run_ask, respond_burst hpos]
    refine progress_of_landing hready rfl rfl fun hor => ?_
    have hknown := hor.resolve_right (not_rewritten_burst wiper.channel direction steps.toNat)
    rw [hknown, ← hreach]
    exact swept_reach hrange hlimit direction steps

end

/-! ## Any number of steps -/

/-- The operation that moves a wiper by some steps in a direction. -/
def moveBy : Direction → UInt32 → Program Unit
  | .up => increaseBy
  | .down => decreaseBy

theorem moveBy_eq (direction : Direction) (steps : UInt32) :
    moveBy direction steps = step direction steps := by
  cases direction <;> rfl

/-- Steps of some lengths in one direction, one after another; the first that fails is the last. -/
def march (direction : Direction) (lengths : List UInt32) : Program Unit :=
  forM lengths (moveBy direction)

/-- A march is a walk that keeps its direction. -/
theorem march_eq_walk (direction : Direction) (lengths : List UInt32) :
    march direction lengths = walk (lengths.map (direction, ·)) := by
  induction lengths with
  | nil => rfl
  | cons steps lengths ih =>
    rw [march, List.forM_cons, moveBy_eq]
    exact congrArg (step direction steps >>= fun _ => ·) ih

/-- **Any number of steps** in one direction are progress by the sum of their lengths. -/
theorem progress_march (hready : Ready chip wiper) (direction : Direction)
    (lengths : List UInt32) :
    Progress direction (lengths.map UInt32.toNat).sum chip wiper
      (((march direction lengths).run.run wiper).run Chip.respond chip) := by
  rw [march_eq_walk]
  -- Each step leaves a wiper that can be stepped, so the next is progress from there.
  induction lengths generalizing chip wiper with
  | nil => exact progress_none hready.inRange direction chip
  | cons steps lengths ih =>
    have hfirst := progress_step hready direction steps
    have hwhole := hfirst.append (ih (hfirst.ready hready))
    rw [List.map_cons, List.map_cons, run_walk_cons, Dialogue.run_bind]
    generalize ((step direction steps).run.run wiper).run Chip.respond chip = first at *
    obtain ⟨⟨result, after⟩, chip', events⟩ := first
    cases hfirst.ok
    exact hwhole

/-! ## The result -/

section
variable {first second : Nat}
  {one other : Outcome Bus.Call Bus.Answer Chip (Except Error Unit × Wiper)}

/-- Progress to the same position has the same value. -/
theorem Progress.value_eq (h : Progress direction first chip wiper one)
    (h' : Progress direction second chip wiper other)
    (hsame : advanced wiper.model.maxValue.toNat wiper.position.toNat direction first =
      advanced wiper.model.maxValue.toNat wiper.position.toNat direction second) :
    one.value = other.value := by
  have hposition : one.value.2.position = other.value.2.position := by
    rw [← UInt16.toNat_inj, h.position_eq, h'.position_eq, hsame]
  refine Prod.ext (h.ok.trans h'.ok.symm) ?_
  rw [h.wiper_eq, h'.wiper_eq, hposition]

/-- From a register at the known position, progress sets it to the position it comes to. -/
theorem Progress.state_of_known (h : Progress direction first chip wiper one)
    (hknown : chip.register wiper.channel.volatileSlot = wiper.position) :
    one.state = chip.setRegister wiper.channel.volatileSlot one.value.2.position := by
  rw [← h.level (.inl hknown)]
  exact h.state_eq

end

/-- **Steps in one direction compose.** Take any wiper that can come about in the mode that pulses
are for, on a chip of its own whose pulses reach as far as the model's highest position, and steps
of any lengths in one direction, in any order. They all succeed. The known position comes to where
the sum of the lengths leads, be it beyond the counts of a single step, no further than to the end
of the range; the wiper is left as by one step of the sum, or of the highest count there is. No
other register changes. The register is at the known position once any of the steps has been a
write. If it was there from the start, the chip too is left as by that one step, with the register
at the known position. -/
theorem steps_compose {model : Model} {channel : Channel} (h : Reachable model channel wiper)
    (hmode : wiper.mode = .volatileOnly) (hlimit : model.maxValue ≤ chip.limit)
    (direction : Direction) {lengths order : List UInt32} (horder : order.Perm lengths) :
    let slot := channel.volatileSlot
    let total := (lengths.map UInt32.toNat).sum
    let outcome := ((march direction order).run.run wiper).run Chip.respond chip
    let single := ((moveBy direction (.ofNat (min total (2 ^ 32 - 1)))).run.run wiper).run
      Chip.respond chip
    let after := outcome.value.2
    outcome.value.1 = .ok () ∧ after = { wiper with position := after.position } ∧
    after.position.toNat = (match direction with
      | .up => min (wiper.position.toNat + total) model.maxValue.toNat
      | .down => wiper.position.toNat - total) ∧
    single.value = outcome.value ∧
    (∀ other, other ≠ slot → outcome.state.register other = chip.register other) ∧
    (Rewritten outcome.calls → outcome.state.register slot = after.position) ∧
    (chip.register slot = wiper.position →
      outcome.state = chip.setRegister slot after.position ∧ single.state = outcome.state) := by
  obtain ⟨rfl, rfl, hrange, -⟩ := reachable_sound h
  intro slot total outcome single after
  have hready : Ready chip wiper := ⟨hrange, hmode, hlimit⟩
  have hposition := UInt16.le_iff_toNat_le.1 hrange
  have htop := wiper.model.maxValue.toNat_lt
  have hsum : (order.map UInt32.toNat).sum = total := (horder.map UInt32.toNat).sum_eq
  have hcount : (UInt32.ofNat (min total (2 ^ 32 - 1))).toNat = min total (2 ^ 32 - 1) :=
    UInt32.toNat_ofNat_of_lt' (by simp only [UInt32.size]; omega)
  have hmarch : Progress direction total chip wiper outcome :=
    hsum ▸ progress_march hready direction order
  have hsingle : Progress direction (min total (2 ^ 32 - 1)) chip wiper single := by
    have hstep := progress_step hready direction (.ofNat (min total (2 ^ 32 - 1)))
    rw [hcount, ← moveBy_eq] at hstep
    exact hstep
  have hvalue : single.value = outcome.value :=
    hsingle.value_eq hmarch (advanced_min hposition (by omega) direction total)
  refine ⟨hmarch.ok, hmarch.wiper_eq, ?_, hvalue, fun other hne => ?_,
    fun hwritten => hmarch.level (.inr hwritten), fun hknown => ?_⟩
  · refine hmarch.position_eq.trans ?_
    cases direction <;> rfl
  · rw [hmarch.state_eq]
    exact Chip.register_setRegister_of_ne (Ne.symm hne) chip _
  · have hstate := hmarch.state_of_known hknown
    refine ⟨hstate, ?_⟩
    rw [hstate, hsingle.state_of_known hknown, hvalue]

/-- From 252 of 256, a step by one and then two by the highest count there is, whose sum is no count
any more: a chip whose pulses reach further ends at 256, as after one step by the highest count. -/
theorem steps_compose_beyond_counts :
    let wiper : Wiper := ⟨.mcp4661, .b, .volatileOnly, 252⟩
    let chip : Chip := ⟨.replicate 16 252, 300⟩
    let outcome := ((march .up [1, 4294967295, 4294967295]).run.run wiper).run Chip.respond chip
    Reachable .mcp4661 .b wiper ∧ outcome.value.2.position = 256 ∧
      outcome.state = chip.setRegister 1 256 ∧
      (((increaseBy 4294967295).run.run wiper).run Chip.respond chip).state = outcome.state := by
  intro wiper chip outcome
  have hstart : chip.converse (start .mcp4661 .b .volatileOnly 0).run = (.ok wiper, chip) := by
    rw [converse_start]
    rfl
  have hreachable : Reachable .mcp4661 .b wiper :=
    .started Chip.respond chip .volatileOnly 0 (congrArg Prod.fst hstart)
  have horder : [1, 4294967295, 4294967295].Perm [4294967295, 4294967295, (1 : UInt32)] := by
    decide
  have hlimit : Model.mcp4661.maxValue ≤ chip.limit := by decide
  obtain ⟨-, -, hposition, -, -, -, hchip⟩ := steps_compose hreachable rfl hlimit .up horder
  obtain ⟨hstate, hsame⟩ := hchip (by decide)
  have hmax : outcome.value.2.position = 256 := UInt16.toNat_inj.1 (hposition.trans (by decide))
  refine ⟨hreachable, hmax, ?_, hsame⟩
  rw [← hmax]
  exact hstate

end WiperDriver.Wiper
