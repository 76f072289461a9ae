import WiperDriver.Proofs.Wiper.Effects
import WiperDriver.Proofs.Wiper.Faults

/-!
# Drift between the known and the real position

The driver keeps the position of a wiper beside the chip and only seldom asks for it. `drift` is the
difference between the two. Faults and a stale start can make it anything; the operations themselves
never make it grow or turn it round (`Closer`), because a burst moves both sides by the same count,
each as far as it can go, and everything else that moves the one also writes or reads the other.

`Effect.closer` is the fact about a single operation and `drift_never_grows` the result over whole
runs, on any bus that fails cleanly. Its one exception is the half-written move, which moves the
register and not the known position.
-/

namespace WiperDriver.Wiper

open Bus (AllOrNothing)

variable {σ : Type}

/-! ## Drift -/

/-- How far the volatile register stands above the known position. -/
def drift (chip : Chip) (wiper : Wiper) : Int :=
  (chip.register wiper.channel.volatileSlot).toNat - wiper.position.toNat

/-- A difference has not grown, and has not changed its sign. -/
structure Closer (before after : Int) : Prop where
  size : after.natAbs ≤ before.natAbs
  above : 0 ≤ before → 0 ≤ after
  below : before ≤ 0 → after ≤ 0

theorem Closer.refl (drift : Int) : Closer drift drift :=
  ⟨Nat.le_refl _, id, id⟩

theorem Closer.zero (before : Int) : Closer before 0 :=
  ⟨Nat.zero_le _, fun _ => Int.le_refl 0, fun _ => Int.le_refl 0⟩

theorem Closer.trans {before between after : Int} (h : Closer before between)
    (h' : Closer between after) : Closer before after :=
  ⟨Nat.le_trans h'.size h.size, h'.above ∘ h.above, h'.below ∘ h.below⟩

/-- The known position is one of the model's, and so are all positions of the model on the chip. -/
structure Fits (chip : Chip) (wiper : Wiper) : Prop where
  inRange : wiper.InRange
  le_limit : wiper.model.maxValue ≤ chip.limit

/-! ## Drift after one operation -/

variable {limit before after position : UInt16} {wiper : Wiper}

/-- The known position stays one of the model's. -/
theorem Effect.le_maxValue (h : Effect limit wiper before after position)
    (hrange : wiper.InRange) : position ≤ wiper.model.maxValue := by
  rw [UInt16.le_iff_toNat_le]
  have hrange' := UInt16.le_iff_toNat_le.1 hrange
  cases h with
  | kept => exact hrange'
  | read =>
    have hread := toNat_withReading wiper before
    exact Nat.le_trans (Nat.le_of_eq hread) (Nat.min_le_right _ _)
  | set target => exact UInt16.le_iff_toNat_le.1 (wiper.clamp_le target)
  | burst direction count hroom =>
    have hle := UInt16.le_of_lt hroom
    have hroom := UInt16.lt_iff_toNat_lt.1 hroom
    cases direction with
    | up =>
      rw [toNat_room_up hrange] at hroom
      rw [toNat_moved_up hrange hle]
      omega
    | down =>
      rw [toNat_moved_down hle]
      omega

/-- **The register and the known position come no further apart.** A burst is the interesting case:
it stops the register at the limit of the chip, and that is never nearer than the place where the
known position stops. -/
theorem Effect.closer (h : Effect limit wiper before after position) (hrange : wiper.InRange)
    (hlimit : wiper.model.maxValue ≤ limit) :
    Closer ((before.toNat : Int) - wiper.position.toNat)
      ((after.toNat : Int) - position.toNat) := by
  have hrange' := UInt16.le_iff_toNat_le.1 hrange
  have hlimit' := UInt16.le_iff_toNat_le.1 hlimit
  cases h with
  | kept => exact .refl _
  | read =>
    have hread : (min before wiper.model.maxValue).toNat =
        min before.toNat wiper.model.maxValue.toNat := toNat_withReading wiper before
    rw [hread]
    constructor <;> omega
  | set target =>
    rw [Int.sub_self]
    exact .zero _
  | burst direction count hroom =>
    have hle := UInt16.le_of_lt hroom
    have hroom := UInt16.lt_iff_toNat_lt.1 hroom
    cases direction with
    | up =>
      rw [toNat_room_up hrange] at hroom
      rw [Chip.toNat_swept_up, toNat_moved_up hrange hle]
      constructor <;> omega
    | down =>
      rw [room] at hroom
      rw [Chip.toNat_swept_down, toNat_moved_down hle]
      constructor <;> omega

/-- A wiper that fits its chip still does after an operation, and its drift is no worse. -/
theorem Affects.closer {chip after : Chip} {wiper' : Wiper} (h : Affects chip wiper after wiper')
    (hfits : Fits chip wiper) :
    Fits after wiper' ∧ Closer (drift chip wiper) (drift after wiper') := by
  obtain ⟨hwiper, htouched, heffect⟩ := h
  have hposition := heffect.le_maxValue hfits.inRange
  have hmodel : wiper'.model = wiper.model := by rw [hwiper]
  have hchannel : wiper'.channel = wiper.channel := by rw [hwiper]
  refine ⟨⟨?_, ?_⟩, ?_⟩
  · rw [InRange, hmodel]
    exact hposition
  · rw [hmodel, htouched.limit]
    exact hfits.le_limit
  · unfold drift
    rw [hchannel]
    exact heffect.closer hfits.inRange hfits.le_limit

variable {responder : Bus.Responder σ} {chip : σ → Chip}

/-- The same over a bus that fails cleanly, for every operation that is not half-written. -/
theorem attempt_closer (hbus : AllOrNothing responder chip) {state : σ}
    (hfits : Fits (chip state) wiper) {operation : Operation}
    (h : ¬ HalfWritten wiper operation (attempt responder operation wiper state)) :
    let outcome := attempt responder operation wiper state
    Fits (chip outcome.state) outcome.value.2 ∧
      Closer (drift (chip state) wiper) (drift (chip outcome.state) outcome.value.2) := by
  intro outcome
  rcases attempt_of_not_halfWritten hbus h with hsame | ⟨⟨_, hwiper⟩, hchip⟩
  · have haffects := affects_perform (chip state) operation wiper
    simp only [← hsame] at haffects
    exact haffects.closer hfits
  · rw [hwiper, hchip]
    exact ⟨hfits, .refl _⟩

/-- A half-written move leaves a wiper that still fits its chip. -/
theorem attempt_fits (hbus : AllOrNothing responder chip) {state : σ}
    (hfits : Fits (chip state) wiper) (operation : Operation) :
    let outcome := attempt responder operation wiper state
    Fits (chip outcome.state) outcome.value.2 := by
  by_cases h : HalfWritten wiper operation (attempt responder operation wiper state)
  · obtain ⟨target, _, hwiper, hchip⟩ := attempt_of_halfWritten hbus h
    simp only
    rw [hwiper, hchip]
    exact ⟨hfits.inRange, hfits.le_limit⟩
  · exact (attempt_closer hbus hfits h).1

/-- The operations after which the known position is the register's: one reads it, one sets it. -/
def Settles (wiper : Wiper) : Operation → Prop
  | .update => True
  | .moveTo _ => wiper.mode ≠ .nonVolatileOnly
  | _ => False

theorem settles_converse (chip : Chip) {operation : Operation} (h : Settles wiper operation) :
    let ended := chip.converse (operation.perform.run.run wiper)
    ended.1.2.position =
      min (ended.2.register wiper.channel.volatileSlot) wiper.model.maxValue := by
  cases operation with
  | update =>
    unfold Operation.perform
    rw [converse_wrap, converse_update]
    rfl
  | moveTo target =>
    have hmin : min (wiper.clamp target) wiper.model.maxValue = wiper.clamp target :=
      if_pos (wiper.clamp_le target)
    have hapart := wiper.channel.nonVolatileSlot_ne_volatileSlot wiper.channel
    unfold Operation.perform
    rw [converse_wrap, converse_moveTo]
    cases hmode : wiper.mode with
    | volatileOnly =>
      simp only
      rw [Chip.register_setRegister_self, hmin]
    | nonVolatileOnly => exact absurd hmode h
    | volatileAndNonVolatile =>
      simp only
      rw [Chip.register_setRegister_of_ne hapart, Chip.register_setRegister_self, hmin]
  | _ => exact h.elim

/-- If such an operation succeeds there is no drift left within the range of the model. -/
theorem attempt_settles (hbus : AllOrNothing responder chip) {state : σ} {operation : Operation}
    (h : Settles wiper operation) {result : Result}
    (hresult : (attempt responder operation wiper state).value.1 = .ok result) :
    let outcome := attempt responder operation wiper state
    outcome.value.2.position =
      min ((chip outcome.state).register wiper.channel.volatileSlot) wiper.model.maxValue := by
  intro outcome
  have hcomplete : ¬ HalfWritten wiper operation outcome := by
    intro hhalf
    obtain ⟨error, herror⟩ := hhalf.refused
    cases hresult.symm.trans herror
  rcases attempt_of_not_halfWritten hbus hcomplete with hsame | ⟨⟨⟨error, herror⟩, _⟩, _⟩
  · have hsettles := settles_converse (chip state) h
    simp only [← hsame] at hsettles
    exact hsettles
  · cases hresult.symm.trans herror

/-! ## Whole runs -/

/-- Where a wiper and its bus can get to by admitted operations of the wiper, and by anything else
that leaves the volatile register of its channel and the limit of the chip alone. -/
inductive Reaches (responder : Bus.Responder σ) (chip : σ → Chip)
    (admits : Wiper → Operation → σ → Prop) (wiper : Wiper) (state : σ) : Wiper → σ → Prop
  | start : Reaches responder chip admits wiper state wiper state
  | operation {wiper' state'} (h : Reaches responder chip admits wiper state wiper' state')
      (operation : Operation) (hadmits : admits wiper' operation state') :
    Reaches responder chip admits wiper state (attempt responder operation wiper' state').value.2
      (attempt responder operation wiper' state').state
  | elsewhere {wiper' state'} (h : Reaches responder chip admits wiper state wiper' state')
      (after : σ) (hlimit : (chip after).limit = (chip state').limit)
      (hregister : (chip after).register wiper'.channel.volatileSlot =
        (chip state').register wiper'.channel.volatileSlot) :
    Reaches responder chip admits wiper state wiper' after

/-- What the rest of the world does has no part in the drift. -/
theorem drift_elsewhere {one other : Chip} (wiper : Wiper)
    (h : other.register wiper.channel.volatileSlot = one.register wiper.channel.volatileSlot) :
    drift other wiper = drift one wiper := by
  unfold drift
  rw [h]

/-- A wiper that fits its chip does so for good. -/
theorem Reaches.fits (hbus : AllOrNothing responder chip) {state : σ}
    (hfits : Fits (chip state) wiper) {admits : Wiper → Operation → σ → Prop} {wiper' : Wiper}
    {state' : σ} (h : Reaches responder chip admits wiper state wiper' state') :
    Fits (chip state') wiper' := by
  induction h with
  | start => exact hfits
  | operation _ operation _ ih => exact attempt_fits hbus ih operation
  | elsewhere _ after hlimit _ ih => exact ⟨ih.inRange, hlimit ▸ ih.le_limit⟩

/-- The operations that are not half-written. -/
def Complete (responder : Bus.Responder σ) (wiper : Wiper) (operation : Operation) (state : σ) :
    Prop :=
  ¬ HalfWritten wiper operation (attempt responder operation wiper state)

/-- Without half-written moves the drift is no worse at the end than at the start. -/
theorem Reaches.closer (hbus : AllOrNothing responder chip) {state : σ}
    (hfits : Fits (chip state) wiper) {wiper' : Wiper} {state' : σ}
    (h : Reaches responder chip (Complete responder) wiper state wiper' state') :
    Closer (drift (chip state) wiper) (drift (chip state') wiper') := by
  induction h with
  | start => exact .refl _
  | operation hbefore operation hadmits ih =>
    exact ih.trans (attempt_closer hbus (hbefore.fits hbus hfits) hadmits).2
  | elsewhere _ after _ hregister ih =>
    rw [drift_elsewhere _ hregister]
    exact ih

/-! ## The exception -/

/-- A move of both registers over a bus that gives out after one transaction is half-written. -/
theorem halfWritten_cutOff (failure : Failure) {wiper : Wiper}
    (hmode : wiper.mode = .volatileAndNonVolatile) (target : Int32) (chip : Chip) :
    HalfWritten wiper (.moveTo target)
      (attempt (Bus.cutOff failure) (.moveTo target) wiper (chip, 1)) := by
  obtain ⟨hvalue, _, hcalls⟩ := attempt_moveTo (Bus.cutOff failure) target wiper (chip, 1)
  have hfits := wiper.clamp_le_maxWord target
  obtain ⟨_, _, hfirst⟩ := run_setValue hfits wiper.channel false
  obtain ⟨_, _, hsecond⟩ := run_setValue hfits wiper.channel true
  rw [run_moveTo, hmode, hfirst, hsecond] at hvalue hcalls
  refine ⟨⟨hmode, target, rfl⟩, ?_, ?_⟩
  · rw [hcalls]
    rfl
  · rw [hvalue]
    exact ⟨_, rfl⟩

/-- Such a move takes a wiper whose position was known away from the known position, unless it was
to stay where it is. -/
theorem not_closer_cutOff (failure : Failure) {wiper : Wiper}
    (hmode : wiper.mode = .volatileAndNonVolatile) {target : Int32} {chip : Chip}
    (hdrift : drift chip wiper = 0) (htarget : wiper.clamp target ≠ wiper.position) :
    let outcome := attempt (Bus.cutOff failure) (.moveTo target) wiper (chip, 1)
    ¬ Closer (drift chip wiper) (drift outcome.state.1 outcome.value.2) := by
  intro outcome hcloser
  obtain ⟨_, heq, hwiper, hchip⟩ := attempt_of_halfWritten (Bus.AllOrNothing.cutOff failure)
    (halfWritten_cutOff failure hmode target chip)
  cases heq
  have hsize := hcloser.size
  rw [hdrift] at hsize
  have hdrift' : drift outcome.state.1 outcome.value.2 =
      ((wiper.clamp target).toNat : Int) - wiper.position.toNat := by
    rw [hwiper, hchip, drift, Chip.register_setRegister, if_pos rfl]
  rw [hdrift'] at hsize
  have hne : (wiper.clamp target).toNat ≠ wiper.position.toNat :=
    fun h => htarget (UInt16.toNat_inj.1 h)
  omega

/-! ## The result -/

/-- **The drift never grows and never changes its sign, but for half-written moves.** Over any bus
that fails cleanly, from any content of the registers and any known position of the model:

* a run in which no move is half-written brings the drift no further from zero;
* at any point of any run, each operation that is not a half-written move does neither, while a
  half-written move sets the volatile register to its target and leaves the wiper as it was;
* an operation that reads or sets the volatile register and succeeds leaves no drift but what the
  register stands above the model's range;
* the exception is real: on some bus any move of both registers that is to go anywhere is
  half-written and makes a drift of zero grow. -/
theorem drift_never_grows (hbus : AllOrNothing responder chip) {state : σ}
    (hfits : Fits (chip state) wiper) :
    (∀ wiper' state', Reaches responder chip (Complete responder) wiper state wiper' state' →
      Closer (drift (chip state) wiper) (drift (chip state') wiper')) ∧
    (∀ wiper' state', Reaches responder chip (fun _ _ _ => True) wiper state wiper' state' →
      ∀ operation, let outcome := attempt responder operation wiper' state'
        (¬ HalfWritten wiper' operation outcome →
          Closer (drift (chip state') wiper') (drift (chip outcome.state) outcome.value.2)) ∧
        (HalfWritten wiper' operation outcome →
          ∃ target, operation = .moveTo target ∧ outcome.value.2 = wiper' ∧
            chip outcome.state = (chip state').setRegister wiper'.channel.volatileSlot
              (wiper'.clamp target)) ∧
        (∀ result, Settles wiper' operation → outcome.value.1 = .ok result →
          outcome.value.2.position = min ((chip outcome.state).register
            wiper'.channel.volatileSlot) wiper'.model.maxValue)) ∧
    (∀ (failure : Failure) (known : Wiper) (target : Int32) (start : Chip),
      known.mode = .volatileAndNonVolatile → drift start known = 0 →
      known.clamp target ≠ known.position →
        let outcome := attempt (Bus.cutOff failure) (.moveTo target) known (start, 1)
        HalfWritten known (.moveTo target) outcome ∧
          ¬ Closer (drift start known) (drift outcome.state.1 outcome.value.2)) := by
  refine ⟨fun wiper' state' h => h.closer hbus hfits, fun wiper' state' h operation => ?_,
    fun failure known target start hmode hdrift htarget => ?_⟩
  · have hfits' := h.fits hbus hfits
    exact ⟨fun hcomplete => (attempt_closer hbus hfits' hcomplete).2,
      fun hhalf => attempt_of_halfWritten hbus hhalf,
      fun result hsettles hresult => attempt_settles hbus hsettles hresult⟩
  · exact ⟨halfWritten_cutOff failure hmode target start,
      not_closer_cutOff failure hmode hdrift htarget⟩

/-- A stale position of 10, a register at 254 and a burst of five steps, which the limit cuts short:
the drift shrinks from 244 to 241. -/
theorem drift_never_grows_of_burst :
    let wiper : Wiper := ⟨.mcp4661, .a, .volatileOnly, 10⟩
    let chip : Chip := ⟨.replicate 16 254, 256⟩
    let outcome := attempt Chip.respond (.increaseBy 5) wiper chip
    AllOrNothing Chip.respond id ∧ Fits chip wiper ∧
      drift chip wiper = 244 ∧ drift outcome.state outcome.value.2 = 241 ∧
        Closer (drift chip wiper) (drift outcome.state outcome.value.2) := by
  intro wiper chip outcome
  have hfits : Fits chip wiper := ⟨by decide, by decide⟩
  have hcomplete : Complete Chip.respond wiper (.increaseBy 5) chip :=
    fun h => absurd h.both.1 (by decide)
  have hreaches : Reaches Chip.respond id (Complete Chip.respond) wiper chip
      outcome.value.2 outcome.state := .operation .start (.increaseBy 5) hcomplete
  have hafter : drift outcome.state outcome.value.2 = 241 := by
    decide +kernel
  exact ⟨.respond, hfits, rfl, hafter, (drift_never_grows .respond hfits).1 _ _ hreaches⟩

end WiperDriver.Wiper
