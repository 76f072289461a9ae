import WiperDriver.Proofs.Wiper.Dial
import WiperDriver.Proofs.Wiper.Safety

/-!
# How a step is carried out

A step that is admitted is nothing at all, a single write of the position it leads to, or a burst of
pulses. `run_step_of_none`, `run_step_of_far` and `run_step_of_near` are these three courses, each
complete with what it reports, what it asks and what it makes of every answer; which of them is
taken depends on two numbers only, the steps asked for and the distance to the limit. Everything
else in this module is read off them.

On a chip that stands where the driver believes it to stand there is nothing to choose between the
three (`converse_step_eq_moveTo`): each of them is the move to where the step leads.
-/

namespace WiperDriver.Wiper

open Registers (Order)

variable {σ : Type} {wiper : Wiper} {direction : Direction} {steps : UInt32}

/-! ## Distances -/

/-- How far the limit of a direction is away, in plain numbers. -/
def distance (wiper : Wiper) (direction : Direction) : Nat :=
  ((wiper.limit direction).toNat - wiper.position.toNat : Int).natAbs

/-- Where a step leads, in plain numbers: as many positions on as are asked for, but no further than
to the limit. -/
def goal (wiper : Wiper) (direction : Direction) (steps : UInt32) : Int :=
  match direction with
  | .up => wiper.position.toNat + (min steps.toNat (wiper.distance .up) : Nat)
  | .down => wiper.position.toNat - (min steps.toNat (wiper.distance .down) : Nat)

/-- The position that a step leads to. -/
def landing (wiper : Wiper) (direction : Direction) (steps : UInt32) : UInt16 :=
  wiper.moved direction (wiper.reach direction steps)

/-- As long as the position is one of the model's, the room is the distance. -/
theorem toNat_room (h : wiper.InRange) (direction : Direction) :
    (wiper.room direction).toNat = wiper.distance direction := by
  have hle := UInt16.le_iff_toNat_le.1 h
  unfold distance
  cases direction with
  | up =>
    rw [toNat_room_up h, limit]
    omega
  | down =>
    show wiper.position.toNat = ((0 : Int) - wiper.position.toNat).natAbs
    omega

theorem room_eq_zero_iff (h : wiper.InRange) :
    wiper.room direction = 0 ↔ wiper.distance direction = 0 := by
  rw [← toNat_room h, ← UInt16.toNat_inj]
  rfl

/-- The position that a step leads to is the goal. -/
theorem toNat_landing (h : wiper.InRange) (direction : Direction) (steps : UInt32) :
    ((wiper.landing direction steps).toNat : Int) = wiper.goal direction steps := by
  have hmoved := toNat_moved_reach h direction steps
  have hdistance := toNat_room h direction
  have hle := UInt16.le_iff_toNat_le.1 h
  unfold landing goal
  rw [hmoved]
  cases direction with
  | up =>
    rw [toNat_room_up h] at hdistance
    simp only
    omega
  | down =>
    rw [room] at hdistance
    simp only
    omega

theorem landing_le (h : wiper.InRange) (direction : Direction) (steps : UInt32) :
    wiper.landing direction steps ≤ wiper.model.maxValue :=
  moved_reach_le h direction steps

/-- A step ends at the limit of its direction exactly if it asks for all the distance there is. -/
theorem landing_eq_limit_iff (h : wiper.InRange) :
    wiper.landing direction steps = wiper.limit direction ↔
      wiper.distance direction ≤ steps.toNat := by
  have hlanding := toNat_landing h direction steps
  have hle := UInt16.le_iff_toNat_le.1 h
  rw [← UInt16.toNat_inj]
  unfold goal distance at *
  cases direction with
  | up =>
    simp only [limit] at *
    omega
  | down =>
    simp only [limit, UInt16.toNat_zero] at *
    omega

/-! ## The three courses -/

/-- What is left of a step once its transaction is answered: the wiper stands at a position if the
transaction has succeeded, and where it was if not. -/
def settle (wiper : Wiper) (position : UInt16) (answer : Except Failure Unit) :
    Except Error Unit × Wiper :=
  match answer with
  | .ok () => (.ok (), { wiper with position })
  | .error failure => (.error (.io failure), wiper)

/-- The two bytes that write a position to the volatile register of a channel. -/
def writeBytes (channel : Channel) (position : UInt16) : List UInt8 :=
  [((channel.volatileAddress <<< 4) ||| Command.Operation.write.code) ||| (position >>> 8).toUInt8,
    position.toUInt8]

/-- The command byte of a pulse on the volatile register of a channel. -/
def pulseCommand (channel : Channel) (direction : Direction) : UInt8 :=
  (channel.volatileAddress <<< 4) ||| (Command.Operation.ofDirection direction).code

theorem run_step_of_mode (h : wiper.mode ≠ .volatileOnly) (direction : Direction)
    (steps : UInt32) :
    (step direction steps).run.run wiper = .done (.error .volatileOnly, wiper) := by
  rw [run_step, if_pos h]

/-- A step by nothing, or from the limit of its direction, is a success at once. -/
theorem run_step_of_none (hrange : wiper.InRange) (hmode : wiper.mode = .volatileOnly)
    (h : steps = 0 ∨ wiper.distance direction = 0) :
    (step direction steps).run.run wiper = .done (.ok (), wiper) := by
  rw [← room_eq_zero_iff hrange] at h
  rw [run_step, if_neg (not_not_intro hmode), if_pos h]

/-- A step that is long, or ends at the limit, is one write of the position it leads to. -/
theorem run_step_of_far (hrange : wiper.InRange) (hmode : wiper.mode = .volatileOnly)
    (hsome : ¬ (steps = 0 ∨ wiper.distance direction = 0))
    (h : maxBurst < steps ∨ wiper.distance direction ≤ steps.toNat) :
    (step direction steps).run.run wiper =
      .say (.writingStep wiper.channel (wiper.landing direction steps) steps)
        (.say (.write wiper.channel.volatileAddress (wiper.landing direction steps))
          (.ask (.write (writeBytes wiper.channel (wiper.landing direction steps)))
            fun answer => .done (wiper.settle (wiper.landing direction steps) answer))) := by
  have hle := landing_le hrange direction steps
  have hfar : wiper.moved direction (wiper.reach direction steps) = wiper.limit direction ∨
      steps > maxBurst := h.symm.imp (landing_eq_limit_iff hrange).2 id
  rw [← room_eq_zero_iff hrange] at hsome
  rw [run_step, if_neg (not_not_intro hmode), if_neg hsome]
  refine (if_pos hfar).trans (congrArg _ ?_)
  show (moveTo (Int32.ofNat (wiper.landing direction steps).toNat)).run.run wiper = _
  rw [run_moveTo, hmode, clamp_ofNat hle]
  simp only
  rw [Registers.setValue, Registers.run_write_of_le (wiperAddress_le wiper.channel false)
    (UInt16.le_trans hle (maxValue_le_maxWord wiper.model))]
  refine congrArg (Dialogue.say _) (congrArg (Dialogue.ask _) (funext fun answer => ?_))
  rcases answer with failure | ⟨⟨⟩⟩
  · rfl
  · rw [settle, hmode]
    rfl

/-- A burst of positions on the volatile register of a channel. -/
theorem run_pulse_volatile {count : UInt16} (hpos : 0 < count.toNat)
    (hle : count.toNat ≤ Registers.maxBurst) (channel : Channel) (direction : Direction) :
    (Registers.pulse channel.volatileAddress direction (Int32.ofNat count.toNat)).run =
      .say (.pulse direction channel.volatileAddress count.toNat)
        (.ask (.write (List.replicate count.toNat (pulseCommand channel direction)))
          fun answer => .done (answer.mapError .io)) := by
  have hint := toInt_ofNat_toNat count
  have hne : Int32.ofNat count.toNat ≠ 0 := by
    intro hzero
    rw [hzero] at hint
    have : (0 : Int) = count.toNat := hint
    omega
  have hforward : ¬ Int32.ofNat count.toNat < 0 := by
    rw [Int32.lt_iff_toInt_lt, hint]
    exact Int.not_lt.2 (Int.natCast_nonneg _)
  rw [Registers.run_pulse, if_neg hne, hint, Int.natAbs_natCast, if_pos hle, if_neg hforward]
  simp only [Command.encode_of_le channel.volatileAddress_le]
  rfl

/-- A short step that does not get to the limit is one burst, with a pulse for every position. -/
theorem run_step_of_near (hrange : wiper.InRange) (hmode : wiper.mode = .volatileOnly)
    (hsome : ¬ (steps = 0 ∨ wiper.distance direction = 0))
    (h : ¬ (maxBurst < steps ∨ wiper.distance direction ≤ steps.toNat)) :
    (step direction steps).run.run wiper =
      .say (.stepping wiper.channel steps.toUInt16 (wiper.landing direction steps))
        (.say (.pulse direction wiper.channel.volatileAddress steps.toNat)
          (.ask (.write (List.replicate steps.toNat (pulseCommand wiper.channel direction)))
            fun answer => .done (wiper.settle (wiper.landing direction steps) answer))) := by
  have hnear : ¬ (wiper.moved direction (wiper.reach direction steps) = wiper.limit direction ∨
      steps > maxBurst) := fun hfar => h (hfar.symm.imp id (landing_eq_limit_iff hrange).1)
  have hsteps : steps.toNat ≤ 5 := Nat.not_lt.1 fun hlt => h (.inl (UInt32.lt_iff_toNat_lt.2 hlt))
  have hpos : 0 < steps.toNat := Nat.pos_of_ne_zero fun hz => hsome (.inl (UInt32.toNat_inj.1 hz))
  have hreach : wiper.reach direction steps = steps.toUInt16 := by
    apply UInt16.toNat_inj.1
    rw [toNat_reach, toNat_room hrange, UInt32.toNat_toUInt16]
    omega
  have hcount : steps.toUInt16.toNat = steps.toNat := by
    rw [UInt32.toNat_toUInt16]
    omega
  have hfold : (min steps (wiper.room direction).toUInt32).toUInt16 = steps.toUInt16 := hreach
  rw [← room_eq_zero_iff hrange] at hsome
  rw [run_step, if_neg (not_not_intro hmode), if_neg hsome]
  refine (if_neg hnear).trans ?_
  rw [hfold]
  have hlanding : wiper.moved direction steps.toUInt16 = wiper.landing direction steps := by
    rw [landing, hreach]
  rw [hlanding]
  refine congrArg (Dialogue.say _) ?_
  rw [run_pulse_volatile (hcount.symm ▸ hpos) (by rw [hcount, Registers.maxBurst]; omega), hcount]
  refine congrArg (Dialogue.say _) (congrArg (Dialogue.ask _) (funext fun answer => ?_))
  rcases answer with failure | ⟨⟨⟩⟩ <;> rfl

/-! ## Runs -/

/-- The operation that moves a wiper by some steps. -/
def Operation.stepBy : Direction → UInt32 → Operation
  | .up, steps => .increaseBy steps
  | .down, steps => .decreaseBy steps

theorem perform_stepBy (direction : Direction) (steps : UInt32) :
    (Operation.stepBy direction steps).perform = (fun _ => .done) <$> step direction steps := by
  cases direction <;> rfl

/-- Performing a step runs the step and wraps up its value. -/
theorem attempt_stepBy (responder : Bus.Responder σ) (direction : Direction) (steps : UInt32)
    (wiper : Wiper) (state : σ) :
    attempt responder (.stepBy direction steps) wiper state =
      let outcome := ((step direction steps).run.run wiper).run responder state
      { outcome with value := (outcome.value.1.map fun _ => .done, outcome.value.2) } := by
  unfold attempt
  rw [perform_stepBy, run_wrap, Dialogue.run_map]

/-- What an answer to the one transaction of a step makes of the step: with a success the wiper
stands at the goal, with a failure it has not moved and the failure is the error. -/
inductive Settled (wiper : Wiper) (goal : Int) :
    Except Failure Unit → Except Error Result × Wiper → Prop
  | moved (position : UInt16) (h : position.toNat = goal) :
    Settled wiper goal (.ok ()) (.ok .done, { wiper with position })
  | kept (failure : Failure) : Settled wiper goal (.error failure) (.error (.io failure), wiper)

/-- A step came to a single transaction that sent some bytes, and ended as it was answered. -/
def ByOne (wiper : Wiper) (goal : Int) (bytes : List UInt8)
    (outcome : Outcome Bus.Call Bus.Answer σ (Except Error Result × Wiper)) : Prop :=
  ∃ answer : Except Failure Unit, outcome.exchanges = [⟨.write bytes, answer⟩] ∧
    Settled wiper goal answer outcome.value

theorem settled_settle (h : wiper.InRange) (direction : Direction) (steps : UInt32)
    (answer : Except Failure Unit) :
    let ended := wiper.settle (wiper.landing direction steps) answer
    Settled wiper (wiper.goal direction steps) answer (ended.1.map fun _ => .done, ended.2) := by
  rcases answer with failure | ⟨⟨⟩⟩
  · exact .kept failure
  · exact .moved _ (toNat_landing h direction steps)

/-- A step in the mode that pulses are for, as it came out over some bus. -/
structure Strategy (wiper : Wiper) (direction : Direction) (steps : UInt32)
    (outcome : Outcome Bus.Call Bus.Answer σ (Except Error Result × Wiper)) : Prop where
  /-- Nothing is asked of the chip exactly if there is nothing to do. -/
  quiet_iff : outcome.calls = [] ↔ steps = 0 ∨ wiper.distance direction = 0
  /-- Nothing to do is a success. -/
  quiet : steps = 0 ∨ wiper.distance direction = 0 → outcome.value = (.ok .done, wiper)
  /-- Many steps, or as many as there is distance, are a single write of the goal. -/
  written : steps ≠ 0 → wiper.distance direction ≠ 0 →
    5 < steps.toNat ∨ wiper.distance direction ≤ steps.toNat →
      ∃ position : UInt16, position.toNat = wiper.goal direction steps ∧
        ByOne wiper (wiper.goal direction steps) (writeBytes wiper.channel position) outcome
  /-- Any others are a burst of as many pulses, which stays clear of both ends of the range. -/
  pulsed : steps ≠ 0 → steps.toNat ≤ 5 → steps.toNat < wiper.distance direction →
    ByOne wiper (wiper.goal direction steps)
      (List.replicate steps.toNat (pulseCommand wiper.channel direction)) outcome ∧
    0 < wiper.goal direction steps ∧ wiper.goal direction steps < wiper.model.maxValue.toNat

/-- A single transaction is not none. -/
theorem ByOne.calls_ne_nil {goal : Int} {bytes : List UInt8}
    {outcome : Outcome Bus.Call Bus.Answer σ (Except Error Result × Wiper)}
    (h : ByOne wiper goal bytes outcome) : outcome.calls ≠ [] := by
  obtain ⟨answer, hexchanges, -⟩ := h
  rw [Outcome.calls_eq, hexchanges]
  exact List.cons_ne_nil _ _

theorem attempt_stepBy_of_none (hrange : wiper.InRange) (hmode : wiper.mode = .volatileOnly)
    (h : steps = 0 ∨ wiper.distance direction = 0) (responder : Bus.Responder σ) (state : σ) :
    attempt responder (.stepBy direction steps) wiper state = ⟨(.ok .done, wiper), state, []⟩ := by
  rw [attempt_stepBy, run_step_of_none hrange hmode h]
  rfl

theorem byOne_of_far (hrange : wiper.InRange) (hmode : wiper.mode = .volatileOnly)
    (hsome : ¬ (steps = 0 ∨ wiper.distance direction = 0))
    (h : maxBurst < steps ∨ wiper.distance direction ≤ steps.toNat) (responder : Bus.Responder σ)
    (state : σ) :
    ByOne wiper (wiper.goal direction steps)
      (writeBytes wiper.channel (wiper.landing direction steps))
      (attempt responder (.stepBy direction steps) wiper state) := by
  rw [attempt_stepBy, run_step_of_far hrange hmode hsome h]
  exact ⟨_, rfl, settled_settle hrange direction steps _⟩

theorem byOne_of_near (hrange : wiper.InRange) (hmode : wiper.mode = .volatileOnly)
    (hsome : ¬ (steps = 0 ∨ wiper.distance direction = 0))
    (h : ¬ (maxBurst < steps ∨ wiper.distance direction ≤ steps.toNat))
    (responder : Bus.Responder σ) (state : σ) :
    ByOne wiper (wiper.goal direction steps)
      (List.replicate steps.toNat (pulseCommand wiper.channel direction))
      (attempt responder (.stepBy direction steps) wiper state) := by
  rw [attempt_stepBy, run_step_of_near hrange hmode hsome h]
  exact ⟨_, rfl, settled_settle hrange direction steps _⟩

/-- A burst ends between the ends of the range. -/
theorem goal_between (hsteps : steps.toNat ≠ 0) (h : steps.toNat < wiper.distance direction)
    (hrange : wiper.InRange) :
    0 < wiper.goal direction steps ∧ wiper.goal direction steps < wiper.model.maxValue.toNat := by
  have hle := UInt16.le_iff_toNat_le.1 hrange
  unfold goal
  unfold distance at *
  cases direction with
  | up =>
    simp only [limit] at *
    omega
  | down =>
    simp only [limit, UInt16.toNat_zero] at *
    omega

/-- **A step is carried out as its length and the distance to the limit demand**, over any bus. -/
theorem strategy_attempt (hrange : wiper.InRange) (hmode : wiper.mode = .volatileOnly)
    (direction : Direction) (steps : UInt32) (responder : Bus.Responder σ) (state : σ) :
    Strategy wiper direction steps
      (attempt responder (.stepBy direction steps) wiper state) := by
  have hlong : 5 < steps.toNat ↔ maxBurst < steps := by
    rw [UInt32.lt_iff_toNat_lt]
    rfl
  by_cases hnone : steps = 0 ∨ wiper.distance direction = 0
  · rw [attempt_stepBy_of_none hrange hmode hnone]
    refine ⟨⟨fun _ => hnone, fun _ => rfl⟩, fun _ => rfl, fun hsteps hdistance => ?_,
      fun hsteps _ hlt => ?_⟩
    · exact absurd hnone (not_or.2 ⟨hsteps, hdistance⟩)
    · exact absurd hnone (not_or.2 ⟨hsteps, Nat.ne_of_gt (Nat.zero_lt_of_lt hlt)⟩)
  by_cases hfar : maxBurst < steps ∨ wiper.distance direction ≤ steps.toNat
  · have hone := byOne_of_far hrange hmode hnone hfar responder state
    refine ⟨⟨fun hcalls => absurd hcalls hone.calls_ne_nil, fun h => absurd h hnone⟩,
      fun h => absurd h hnone, fun _ _ _ => ⟨_, toNat_landing hrange direction steps, hone⟩,
      fun _ hshort hlt => ?_⟩
    exact absurd hfar (not_or.2 ⟨mt hlong.2 (Nat.not_lt.2 hshort), Nat.not_le.2 hlt⟩)
  · have hone := byOne_of_near hrange hmode hnone hfar responder state
    refine ⟨⟨fun hcalls => absurd hcalls hone.calls_ne_nil, fun h => absurd h hnone⟩,
      fun h => absurd h hnone, fun _ _ h => absurd (h.imp hlong.1 id) hfar,
      fun hsteps _ hlt => ⟨hone, goal_between (fun hz => hsteps ?_) hlt hrange⟩⟩
    exact UInt32.toNat_inj.1 hz

/-! ## The two ways agree -/

/-- A goal is its own clamped value. -/
theorem clamp_goal (h : wiper.InRange) (direction : Direction) (steps : UInt32) :
    wiper.clamp (.ofInt (wiper.goal direction steps)) = wiper.landing direction steps := by
  rw [← toNat_landing h direction steps, Int32.ofInt_eq_ofNat]
  exact clamp_ofNat (landing_le h direction steps)

/-- **However a step is carried out, it is a move to its goal**, on a chip that stands where the
driver believes it to stand: the result, the wiper and every register are the same. -/
theorem converse_step_eq_moveTo {chip : Chip} (hrange : wiper.InRange)
    (hlimit : wiper.model.maxValue ≤ chip.limit) (hmode : wiper.mode = .volatileOnly)
    (hknown : chip.register wiper.channel.volatileSlot = wiper.position) (direction : Direction)
    (steps : UInt32) :
    chip.converse ((Operation.stepBy direction steps).perform.run.run wiper) =
      chip.converse
        ((Operation.moveTo (.ofInt (wiper.goal direction steps))).perform.run.run wiper) := by
  rw [perform_stepBy, Operation.perform, converse_wrap, converse_wrap,
    converse_step_of_known hrange hlimit hmode hknown, converse_moveTo]
  simp only [hmode, clamp_goal hrange]
  rfl

/-! ## The result -/

/-- **How a step of any length is carried out**, from any wiper that can come about:

* in a mode that is not for pulses it is refused, and nothing is asked of the chip;
* otherwise, over any bus, it is nothing, one write or one burst, as `Strategy` says;
* on a chip of its own, whose volatile register is at the known position and whose pulses reach as
  far as the model's highest position, it leaves chip and wiper as a move to its goal does. -/
theorem step_strategy {model : Model} {channel : Channel} (h : Reachable model channel wiper)
    (direction : Direction) (steps : UInt32) :
    (wiper.mode ≠ .volatileOnly → ∀ {σ : Type} (responder : Bus.Responder σ) (state : σ),
      attempt responder (.stepBy direction steps) wiper state =
        ⟨(.error .volatileOnly, wiper), state, []⟩) ∧
    (wiper.mode = .volatileOnly → ∀ {σ : Type} (responder : Bus.Responder σ) (state : σ),
      Strategy wiper direction steps
        (attempt responder (.stepBy direction steps) wiper state)) ∧
    (wiper.mode = .volatileOnly → ∀ chip : Chip, model.maxValue ≤ chip.limit →
      chip.register channel.volatileSlot = wiper.position →
        chip.converse ((Operation.stepBy direction steps).perform.run.run wiper) =
          chip.converse
            ((Operation.moveTo (.ofInt (wiper.goal direction steps))).perform.run.run wiper)) := by
  obtain ⟨rfl, rfl, hrange, -⟩ := reachable_sound h
  refine ⟨fun hmode _ responder state => ?_, fun hmode _ responder state => ?_,
    fun hmode chip hlimit hknown => ?_⟩
  · rw [attempt_stepBy, run_step_of_mode hmode]
    rfl
  · exact strategy_attempt hrange hmode direction steps responder state
  · exact converse_step_eq_moveTo hrange hlimit hmode hknown direction steps

/-- From 252 of 256 there is room for four steps up: three are a burst, four are a write, and all
the steps that there are leave a chip at the top as a move there does. -/
theorem step_strategy_near_limit :
    let delivers : Bus.Responder Unit := fun call _ => (match call with
      | .write _ => .ok ()
      | .writeRead _ _ => .ok ⟨2, [0x00, 0xFC]⟩, ())
    let wiper : Wiper := ⟨.mcp4661, .b, .volatileOnly, 252⟩
    let chip : Chip := ⟨.replicate 16 252, 300⟩
    Reachable .mcp4661 .b wiper ∧
      (attempt delivers (.increaseBy 3) wiper ()).calls = [.write [0x14, 0x14, 0x14]] ∧
      (attempt delivers (.increaseBy 4) wiper ()).calls = [.write [0x11, 0x00]] ∧
      chip.converse ((Operation.increaseBy 4294967295).perform.run.run wiper) =
        chip.converse ((Operation.moveTo 256).perform.run.run wiper) := by
  intro delivers wiper chip
  have hreachable : Reachable .mcp4661 .b wiper :=
    .started delivers () .volatileOnly 0 (by rfl)
  have hmode : wiper.mode = .volatileOnly := rfl
  obtain ⟨-, hthree, -⟩ := step_strategy hreachable .up 3
  obtain ⟨-, -, hsame⟩ := step_strategy hreachable .up 4294967295
  obtain ⟨⟨_, hburst, -⟩, -⟩ :=
    (hthree hmode delivers ()).pulsed (by decide) (by decide) (by decide)
  have hgoal : wiper.goal .up 4294967295 = 256 := by decide +kernel
  have hknown : chip.register Channel.b.volatileSlot = wiper.position := by decide
  have hmoved := hsame hmode chip (by decide) hknown
  rw [hgoal] at hmoved
  have hbytes : List.replicate (UInt32.toNat 3) (pulseCommand .b .up) = [0x14, 0x14, 0x14] := by
    decide
  refine ⟨hreachable, ?_, by decide +kernel, hmoved⟩
  rw [← hbytes, Outcome.calls_eq]
  exact congrArg (List.map Sigma.fst) hburst

end WiperDriver.Wiper
