import WiperDriver.Proofs.Bench.Handles
import WiperDriver.Proofs.Terminals
import WiperDriver.Proofs.Wiper.Restraint

/-!
# Locks and protection

The two wiper locks and write protection are flags of STATUS, and every wiper of the chip can switch
them. However many wipers do, over a bus on which transactions take place as a whole or not at all,
STATUS tells what was last commanded with success (`Tells`): one job keeps it so (`Tells.serve`),
and therefore any number of them (`tells_serve`).

That nothing else changes STATUS is a matter of the commands that are sent: only the operations that
switch a flag give one that changes it (`May.changed?_ne`), and theirs change nothing else.
-/

namespace WiperDriver

open Chip (Instruction)
open Registers (Order)

variable {σ α : Type} {responder : Bus.Responder σ} {chip : σ → Chip}

namespace Bus

/-- Over a bus that fails cleanly a transaction changes no register but those that its commands
change. -/
theorem AllOrNothing.register_respond (hbus : AllOrNothing responder chip) {call : Call}
    {slot : Fin 16} (h : ∀ command ∈ call.commands, command.changed? ≠ some slot) (state : σ) :
    (chip (responder call state).2).register slot = (chip state).register slot := by
  rcases hbus.carried_or_failed call state with ⟨-, hafter⟩ | ⟨-, hafter⟩
  · rw [hafter]
    cases call <;> exact Chip.register_absorb h _
  · rw [hafter]

/-- Neither does a dialogue. -/
theorem AllOrNothing.register_run (hbus : AllOrNothing responder chip) {slot : Fin 16}
    (dialogue : Dialogue Call Answer α) (state : σ)
    (h : ∀ call ∈ (dialogue.run responder state).calls, ∀ command ∈ call.commands,
      command.changed? ≠ some slot) :
    (chip (dialogue.run responder state).state).register slot = (chip state).register slot := by
  induction dialogue generalizing state with
  | done value => rfl
  | say line next ih => exact ih state h
  | ask call next ih =>
    obtain ⟨hfirst, hlater⟩ := List.forall_mem_cons.1 h
    exact (ih _ _ hlater).trans (hbus.register_respond hfirst state)

end Bus

namespace Wiper

variable {model : Model} {channel : Channel} {mode : Mode} {wiper : Wiper}

/-! ## What a wiper makes of STATUS -/

/-- Only an operation that switches a flag changes STATUS. -/
theorem May.changed?_ne {operation : Option Operation} {command : Instruction}
    (h : May model channel mode operation command)
    (hother : ∀ switch, operation = some switch → ¬ switch.IsSwitch) :
    command.changed? ≠ some Chip.statusSlot := by
  cases h with
  | look | lookStored | status | lookTerminals => exact nofun
  | place => exact fun h => channel.status_ne_volatileSlot (Option.some.inj h).symm
  | step direction =>
    have hown : (Instruction.pulse channel.volatileSlot direction).changed? =
        some channel.volatileSlot := by
      cases channel <;> rfl
    rw [hown]
    exact fun h => channel.status_ne_volatileSlot (Option.some.inj h).symm
  | store => exact fun h => channel.status_ne_nonVolatileSlot (Option.some.inj h).symm
  | terminals => exact fun h => channel.status_ne_terminalSlot (Option.some.inj h).symm
  | lock locked => exact absurd (.setLock locked) (hother _ rfl)
  | protection enabled => exact absurd (.setProtection enabled) (hother _ rfl)

/-- Orders that may be given without a switch leave STATUS alone. -/
theorem changed?_ne_of_allowed {operation : Option Operation} {calls : List Bus.Call}
    {orders : List Order} (hcalls : calls = orders.map Order.call)
    (hallowed : ∀ order ∈ orders, Allowed model channel mode operation order)
    (hother : ∀ switch, operation = some switch → ¬ switch.IsSwitch) :
    ∀ call ∈ calls, ∀ command ∈ call.commands, command.changed? ≠ some Chip.statusSlot := by
  intro call hcall command hcommand
  rw [hcalls, List.mem_map] at hcall
  obtain ⟨order, horder, rfl⟩ := hcall
  rw [(hallowed order horder).fits.commands_call] at hcommand
  exact ((hallowed order horder).may command hcommand).changed?_ne hother

/-- Taking control leaves STATUS alone. -/
theorem status_start (hbus : Bus.AllOrNothing responder chip) (model : Model) (channel : Channel)
    (mode : Mode) (initial : Int32) (state : σ) :
    (chip ((start model channel mode initial).run.run responder state).state).register 5 =
      (chip state).register 5 := by
  obtain ⟨orders, hcalls, hallowed⟩ := start_orders responder model channel mode initial state
  exact hbus.register_run _ state (changed?_ne_of_allowed hcalls hallowed nofun)

/-- An operation that switches a flag changes no other register, whether it succeeds or not. -/
theorem register_switch (hbus : Bus.AllOrNothing responder chip) {operation : Operation}
    (hswitch : operation.IsSwitch) {slot : Fin 16} (hslot : slot ≠ 5) (wiper : Wiper) (state : σ) :
    (chip (attempt responder operation wiper state).state).register slot =
      (chip state).register slot := by
  obtain ⟨orders, hsuccession, hcalls⟩ := (prompt_perform operation wiper).orders responder state
  refine hbus.register_run _ state fun call hcall command hcommand => ?_
  rw [hcalls, List.mem_map] at hcall
  obtain ⟨order, horder, rfl⟩ := hcall
  obtain ⟨past, hasked⟩ := hsuccession.permitted order horder
  obtain ⟨-, hfits, single, hsingle, hchanged⟩ := hasked.once hswitch
  rw [hfits.commands_call, hsingle, List.mem_singleton] at hcommand
  rw [hcommand, hchanged]
  exact fun h => hslot (Option.some.inj h).symm

/-- The flag of STATUS that an operation switches, and whether on or off. -/
def Operation.switch? (channel : Channel) : Operation → Option (UInt16 × Bool)
  | .setLock locked => some (channel.lockFlag, locked)
  | .setProtection enabled => some (0x1, enabled)
  | _ => none

theorem Operation.IsSwitch.switch?_ne_none {operation : Operation} (h : operation.IsSwitch)
    (channel : Channel) : operation.switch? channel ≠ none := by
  cases h <;> exact nofun

/-- A switch on the chip itself. -/
theorem converse_switch {operation : Operation} {flag : UInt16} {on : Bool}
    (h : operation.switch? wiper.channel = some (flag, on)) (chip : Chip) :
    chip.converse (operation.perform.run.run wiper) =
      match wiper.model.checkEeprom with
      | .ok () => ((.ok .done, wiper), chip.setRegister 5 (assign (chip.register 5) flag on))
      | .error error => ((.error error, wiper), chip) := by
  cases operation <;> cases h
  case setLock =>
    rw [Operation.perform, converse_wrap, converse_setLock]
    cases wiper.model.checkEeprom <;> rfl
  case setProtection =>
    rw [Operation.perform, converse_wrap, converse_setProtection]
    cases wiper.model.checkEeprom <;> rfl

/-- A switch over a bus that fails cleanly: if it succeeds, the flag is as it was commanded. -/
theorem status_switch (hbus : Bus.AllOrNothing responder chip) {operation : Operation}
    {flag : UInt16} {on : Bool} (h : operation.switch? wiper.channel = some (flag, on))
    (state : σ) :
    let outcome := attempt responder operation wiper state
    outcome.value.1 = .ok .done ∧
        (chip outcome.state).register 5 = assign ((chip state).register 5) flag on ∨
      Bus.Refused outcome.value.1 ∧ chip outcome.state = chip state := by
  have hone : ¬ WritesBoth wiper operation := by
    rintro ⟨-, target, rfl⟩
    cases h
  rcases (whole_perform hone).ends hbus state with hsame | ⟨⟨hrefused, -⟩, hkept⟩
  · rw [converse_switch h] at hsame
    cases hmodel : wiper.model.checkEeprom with
    | ok =>
      rw [hmodel] at hsame
      obtain ⟨hvalue, hchip⟩ := Prod.mk.inj hsame
      refine .inl ⟨congrArg Prod.fst hvalue, ?_⟩
      show (chip (attempt responder operation wiper state).state).register 5 = _
      exact (congrArg (Chip.register · 5) hchip).trans (Chip.register_setRegister_self _ _ _)
    | error error =>
      rw [hmodel] at hsame
      obtain ⟨hvalue, hchip⟩ := Prod.mk.inj hsame
      exact .inr ⟨⟨error, congrArg Prod.fst hvalue⟩, hchip⟩
  · exact .inr ⟨hrefused, hkept⟩

/-- Any other operation leaves STATUS alone. -/
theorem status_other (hbus : Bus.AllOrNothing responder chip) (hsound : Sound model channel wiper)
    {operation : Operation} (h : operation.switch? wiper.channel = none) (state : σ) :
    (chip (attempt responder operation wiper state).state).register 5 =
      (chip state).register 5 := by
  obtain ⟨orders, -, hcalls, hallowed⟩ := attempt_orders responder operation hsound state
  refine hbus.register_run _ state (changed?_ne_of_allowed hcalls hallowed fun switch hswitch => ?_)
  cases hswitch
  exact fun hno => hno.switch?_ne_none _ h

/-- A status operation whose read succeeds tells what STATUS says. -/
theorem attempt_status (hbus : Bus.AllOrNothing responder chip) (wiper : Wiper) {state : σ}
    (hgood : ∀ exchange ∈ (attempt responder .status wiper state).exchanges,
      Bus.failure? exchange.1 exchange.2 = none) :
    (attempt responder .status wiper state).value.1 =
      ((Status.ofWord ((chip state).register 5)).map (·.forChannel wiper.channel)).map
        .status := by
  have hended := (prompt_perform .status wiper).converse_of_unfailed hbus hgood
  rw [Operation.perform, converse_wrap, converse_status] at hended
  refine (congrArg (·.1.1) hended).trans ?_
  cases Status.ofWord ((chip state).register 5) <;> rfl

end Wiper

namespace Channel

/-- The channels that are locked together. -/
def mates : Channel → List Channel
  | .a | .c => [.a, .c]
  | .b | .d => [.b, .d]

/-- Channels that are locked together have one flag, and others have different ones. -/
theorem lockFlag_cases (one other : Channel) :
    one ∈ other.mates ∧ one.lockFlag = other.lockFlag ∨
      one ∉ other.mates ∧ one.lockFlag &&& other.lockFlag = 0 := by
  cases one <;> cases other <;> decide

/-- The lock flags are none of the other bits of STATUS. -/
theorem lockFlag_apart (channel : Channel) :
    channel.lockFlag ≠ 0 ∧ channel.lockFlag &&& Status.reserved = 0 ∧
      channel.lockFlag &&& 0x8 = 0 ∧ channel.lockFlag &&& 0x1 = 0 := by
  cases channel <;> decide

end Channel

namespace Bench

/-! ## What was commanded -/

/-- The argument of a lock command for one of some channels, if the entry is of one that has
succeeded. -/
def Entry.lock? (channels : List Channel) (entry : Entry) : Option Bool :=
  match entry.job, entry.wiper, entry.answer with
  | .perform _ (.setLock locked), some wiper, .done =>
    if wiper.channel ∈ channels then some locked else none
  | _, _, _ => none

/-- The argument of a command for write protection, if the entry is of one that has succeeded. -/
def Entry.protection? (entry : Entry) : Option Bool :=
  match entry.job, entry.answer with
  | .perform _ (.setProtection enabled), .done => some enabled
  | _, _ => none

/-- What the last of some entries says that says anything, or else what was so at the start. -/
def lastSaid (told : Entry → Option Bool) (history : List Entry) (initially : Bool) : Bool :=
  (history.filterMap told).getLast?.getD initially

theorem lastSaid_concat (told : Entry → Option Bool) (history : List Entry) (initially : Bool)
    (entry : Entry) :
    lastSaid told (history ++ [entry]) initially =
      (told entry).getD (lastSaid told history initially) := by
  unfold lastSaid
  rw [List.filterMap_append]
  cases htold : told entry with
  | none => simp [htold]
  | some said => simp [htold]

/-- STATUS tells what was last commanded; the bits that no command switches are as they were. -/
structure Tells (initial : UInt16) (history : List Entry) (word : UInt16) : Prop where
  reserved : word &&& Status.reserved = Status.reserved
  active : word &&& 0x8 = initial &&& 0x8
  protection : (word &&& 0x1 != 0) = lastSaid Entry.protection? history (initial &&& 0x1 != 0)
  lock : ∀ channel : Channel, (word &&& channel.lockFlag != 0) =
    lastSaid (Entry.lock? channel.mates) history (initial &&& channel.lockFlag != 0)

section

variable {initial word : UInt16} {history : List Entry} {entry : Entry}

/-- Nothing has been commanded yet. -/
theorem Tells.nil (h : initial &&& Status.reserved = Status.reserved) :
    Tells initial [] initial :=
  ⟨h, rfl, rfl, fun _ => rfl⟩

/-- An entry that commands nothing, if STATUS stays as it is. -/
theorem Tells.idle (h : Tells initial history word) (hprotection : entry.protection? = none)
    (hlock : ∀ channels, entry.lock? channels = none) :
    Tells initial (history ++ [entry]) word := by
  refine ⟨h.reserved, h.active, ?_, fun channel => ?_⟩
  · rw [lastSaid_concat, hprotection]
    exact h.protection
  · rw [lastSaid_concat, hlock]
    exact h.lock channel

/-- A lock command, if its flag is switched. -/
theorem Tells.locked (h : Tells initial history word) {channel : Channel} {locked : Bool}
    (hprotection : entry.protection? = none)
    (hlock : ∀ channels, entry.lock? channels = if channel ∈ channels then some locked else none) :
    Tells initial (history ++ [entry]) (assign word channel.lockFlag locked) := by
  obtain ⟨hsome, hreserved, hactive, hapart⟩ := channel.lockFlag_apart
  refine ⟨?_, ?_, ?_, fun other => ?_⟩
  · rw [assign_and_of_disjoint hreserved, h.reserved]
  · rw [assign_and_of_disjoint hactive, h.active]
  · rw [lastSaid_concat, hprotection, assign_and_of_disjoint hapart]
    exact h.protection
  · rw [lastSaid_concat, hlock]
    rcases channel.lockFlag_cases other with ⟨hmem, hsame⟩ | ⟨hnot, hdisjoint⟩
    · rw [if_pos hmem, ← hsame]
      exact assign_and_self_ne_zero hsome word locked
    · rw [if_neg hnot, assign_and_of_disjoint hdisjoint]
      exact h.lock other

/-- A command for write protection, if its flag is switched. -/
theorem Tells.protected (h : Tells initial history word) {enabled : Bool}
    (hprotection : entry.protection? = some enabled)
    (hlock : ∀ channels, entry.lock? channels = none) :
    Tells initial (history ++ [entry]) (assign word 0x1 enabled) := by
  refine ⟨?_, ?_, ?_, fun channel => ?_⟩
  · rw [assign_and_of_disjoint (by decide), h.reserved]
  · rw [assign_and_of_disjoint (by decide), h.active]
  · rw [lastSaid_concat, hprotection]
    exact assign_and_self_ne_zero (by decide) word enabled
  · have hapart : 0x1 &&& channel.lockFlag = 0 := by
      rw [UInt16.and_comm]
      exact channel.lockFlag_apart.2.2.2
    rw [lastSaid_concat, hlock, assign_and_of_disjoint hapart]
    exact h.lock channel

/-- STATUS is accepted, and says for each channel what was last commanded. -/
theorem Tells.forChannel (h : Tells initial history word) (channel : Channel) :
    (Status.ofWord word).map (·.forChannel channel) = .ok
      { channel
        writeActive := initial &&& 0x8 != 0
        writeProtected := lastSaid Entry.protection? history (initial &&& 0x1 != 0)
        locked := lastSaid (Entry.lock? channel.mates) history
          (initial &&& channel.lockFlag != 0) } := by
  rw [Status.ofWord, if_pos h.reserved, ← h.protection, ← h.lock, ← h.active]
  cases channel <;> rfl

end

/-! ## One job -/

/-- The job is one of a wiper, or takes control of one. -/
inductive Job.OfWiper : Job → Prop
  | start (number : Nat) (model : Model) (channel : Channel) (mode : Mode) (initial : Int32) :
    OfWiper (.start number model channel mode initial)
  | position (number : Nat) : OfWiper (.position number)
  | perform (number : Nat) (operation : Wiper.Operation) : OfWiper (.perform number operation)

/-- Every wiper under control is sound. -/
def Handles.Sound (handles : Handles) : Prop :=
  ∀ number wiper, handles number = some wiper → wiper.Sound wiper.model wiper.channel

section

variable {handles : Handles} {job : Job}

theorem Handles.Sound.none : Handles.none.Sound := by
  rintro number wiper ⟨⟩

theorem Handles.Sound.set (h : handles.Sound) (number : Nat) {model : Model} {channel : Channel}
    {wiper : Wiper} (hsound : Wiper.Sound model channel wiper) :
    (handles.set number wiper).Sound := by
  intro other found hfound
  rcases Handles.eq_or_of_set hfound with rfl | hbefore
  · rw [hsound.model_eq, hsound.channel_eq]
    exact hsound
  · exact h other found hbefore

/-- A job leaves every wiper sound, whatever the bus does. -/
theorem Handles.Sound.serve (h : handles.Sound) (job : Job) (responder : Bus.Responder σ)
    (state : σ) : (job.serve responder handles state).handles.Sound := by
  cases job with
  | registers operation =>
    rw [Job.serve, Job.run, Dialogue.run_map]
    exact h
  | position number => exact h
  | start number model channel mode initial =>
    rw [Job.serve, Job.run, Dialogue.run_map]
    simp only
    cases hvalue : ((Wiper.start model channel mode initial).run.run responder state).value with
    | error error => exact h
    | ok wiper => exact h.set number (Wiper.start_sound hvalue)
  | perform number operation =>
    cases hwiper : handles number with
    | none =>
      rw [Job.serve_perform_of_none hwiper]
      exact h
    | some wiper =>
      rw [Job.serve_perform hwiper]
      exact h.set number (Wiper.attempt_sound (h number wiper hwiper) responder state operation)

/-- An operation that switches no flag commands nothing. -/
theorem Tells.unswitched {initial word : UInt16} {history : List Entry}
    (h : Tells initial history word) {operation : Wiper.Operation} {wiper : Wiper}
    (hswitch : operation.switch? wiper.channel = none) (number : Nat) (answer : Answer)
    (exchanges : List ((call : Bus.Call) × Bus.Answer call)) :
    Tells initial (history ++ [⟨.perform number operation, some wiper, answer, exchanges⟩])
      word := by
  cases operation with
  | setLock | setProtection => cases hswitch
  | _ => exact h.idle rfl fun _ => rfl

/-- A refused operation commands nothing either. -/
theorem Tells.refused {initial word : UInt16} {history : List Entry}
    (h : Tells initial history word) (operation : Wiper.Operation) (wiper : Wiper) (number : Nat)
    (error : Error) (exchanges : List ((call : Bus.Call) × Bus.Answer call)) :
    Tells initial
      (history ++ [⟨.perform number operation, some wiper, .refused error, exchanges⟩]) word := by
  cases operation <;> exact h.idle rfl fun _ => rfl

/-- An operation that switches a flag, if the flag is switched. -/
theorem Tells.switched {initial word flag : UInt16} {history : List Entry} {on : Bool}
    (h : Tells initial history word) {operation : Wiper.Operation} {wiper : Wiper}
    (hswitch : operation.switch? wiper.channel = some (flag, on)) (number : Nat)
    (exchanges : List ((call : Bus.Call) × Bus.Answer call)) :
    Tells initial (history ++ [⟨.perform number operation, some wiper, .done, exchanges⟩])
      (assign word flag on) := by
  cases operation <;> cases hswitch
  case setLock => exact h.locked rfl fun _ => rfl
  case setProtection => exact h.protected rfl fun _ => rfl

/-- Whatever comes of an operation, STATUS tells it. -/
theorem Tells.attempt (hbus : Bus.AllOrNothing responder chip) {model : Model} {channel : Channel}
    {wiper : Wiper} (hsound : Wiper.Sound model channel wiper) {initial : UInt16}
    {history : List Entry} {state : σ} (h : Tells initial history ((chip state).register 5))
    (number : Nat) (operation : Wiper.Operation) :
    let outcome := Wiper.attempt responder operation wiper state
    Tells initial (history ++ [⟨.perform number operation, some wiper,
      .ofWiper outcome.value.1, outcome.exchanges⟩]) ((chip outcome.state).register 5) := by
  simp only
  cases hswitch : operation.switch? wiper.channel with
  | none =>
    rw [Wiper.status_other hbus hsound hswitch]
    exact h.unswitched hswitch number _ _
  | some switch =>
    obtain ⟨flag, on⟩ := switch
    rcases Wiper.status_switch hbus hswitch state with
      ⟨hvalue, hstatus⟩ | ⟨⟨error, hvalue⟩, hkept⟩
    · rw [hvalue, hstatus]
      exact h.switched hswitch number _
    · rw [hvalue, hkept]
      exact h.refused operation wiper number error _

/-- **A job keeps it so that STATUS tells what was last commanded.** -/
theorem Tells.serve (hbus : Bus.AllOrNothing responder chip) (hjob : job.OfWiper)
    (hsound : handles.Sound) {initial : UInt16} {history : List Entry} {state : σ}
    (h : Tells initial history ((chip state).register 5)) :
    let finished := job.serve responder handles state
    Tells initial (history ++ [finished.entry]) ((chip finished.state).register 5) := by
  cases hjob with
  | start number model channel mode position =>
    rw [Job.serve, Job.run, Dialogue.run_map]
    simp only
    rw [Wiper.status_start hbus]
    exact h.idle rfl fun _ => rfl
  | position number => exact h.idle rfl fun _ => rfl
  | perform number operation =>
    cases hwiper : handles number with
    | none =>
      rw [Job.serve_perform_of_none hwiper]
      cases operation <;> exact h.idle rfl fun _ => rfl
    | some wiper =>
      rw [Job.serve_perform hwiper]
      exact h.attempt hbus (hsound number wiper hwiper) number operation

/-! ## Many jobs -/

/-- **In a run, too, STATUS tells what was last commanded**: before every entry, what the entries
before that one are of. -/
theorem tells_serve (hbus : Bus.AllOrNothing responder chip) {jobs : List Job}
    (hjobs : ∀ job ∈ jobs, job.OfWiper) (hsound : handles.Sound) {initial : UInt16}
    {history : List Entry} {state : σ} (h : Tells initial history ((chip state).register 5))
    {before after : List Entry} {entry : Entry}
    (hentries : (serve responder jobs handles state).entries = before ++ entry :: after) :
    ∃ handles' state', entry = (entry.job.serve responder handles' state').entry ∧
      Tells initial (history ++ before) ((chip state').register 5) := by
  induction jobs generalizing handles history state before with
  | nil => exact absurd hentries.symm (List.append_ne_nil_of_right_ne_nil _ (List.cons_ne_nil _ _))
  | cons job later ih =>
    obtain ⟨hjob, hlater⟩ := List.forall_mem_cons.1 hjobs
    rw [serve_cons] at hentries
    cases before with
    | nil =>
      obtain ⟨rfl, -⟩ := List.cons.inj hentries
      refine ⟨handles, state, rfl, ?_⟩
      rw [List.append_nil]
      exact h
    | cons first before =>
      obtain ⟨rfl, hrest⟩ := List.cons.inj hentries
      have hnext := ih hlater (hsound.serve job responder state) (h.serve hbus hjob hsound) hrest
      rw [List.append_assoc] at hnext
      exact hnext

end

/-! ## The result -/

/-- **Locks and protection are what was last commanded.** On a chip whose reserved bits of STATUS
are set, any number of wipers do anything, over a bus that fails cleanly. Then every status that a
wiper reads without a failure tells

* whether the last lock command that succeeded for its channel, or for the one that is locked
  together with it, was to lock;
* whether the last command for write protection that succeeded, of whatever wiper, was to protect;
* of an EEPROM write under way what was so at the start, as it does of a lock or of the protection
  if there was no such command.

No command for a lock or for the protection changes another register than STATUS, whether it
succeeds or not. -/
theorem status_tells_last_commands (hbus : Bus.AllOrNothing responder chip) {start : σ}
    (hreserved : (chip start).register 5 &&& Status.reserved = Status.reserved) {jobs : List Job}
    (hjobs : ∀ job ∈ jobs, job.OfWiper) :
    let initial := (chip start).register 5
    (∀ before entry after number wiper,
      (serve responder jobs .none start).entries = before ++ entry :: after →
        entry.job = .perform number .status → entry.wiper = some wiper →
          (∀ exchange ∈ entry.exchanges, Bus.failure? exchange.1 exchange.2 = none) →
            entry.answer = .channelStatus
              { channel := wiper.channel
                writeActive := initial &&& 0x8 != 0
                writeProtected := lastSaid Entry.protection? before (initial &&& 0x1 != 0)
                locked := lastSaid (Entry.lock? wiper.channel.mates) before
                  (initial &&& wiper.channel.lockFlag != 0) }) ∧
    ∀ handles number operation state slot, operation.IsSwitch → slot ≠ 5 →
      let finished := (Job.perform number operation).serve responder handles state
      (chip finished.state).register slot = (chip state).register slot := by
  intro initial
  refine ⟨fun before entry after number wiper hentries hjob hwiper hgood => ?_,
    fun handles number operation state slot hswitch hslot => ?_⟩
  · obtain ⟨handles, state, hentry, htells⟩ :=
      tells_serve hbus hjobs Handles.Sound.none (.nil hreserved) hentries
    rw [hjob] at hentry
    have hfound : handles number = some wiper := by
      rw [hentry] at hwiper
      exact hwiper
    rw [Job.serve_perform hfound] at hentry
    subst hentry
    simp only
    rw [Wiper.attempt_status hbus wiper hgood, htells.forChannel]
    rfl
  · cases hwiper : handles number with
    | none => rw [Job.serve_perform_of_none hwiper]
    | some wiper =>
      rw [Job.serve_perform hwiper]
      exact Wiper.register_switch hbus hswitch hslot wiper state

/-- Two wipers of a pair on a chip with both locks on and its EEPROM protected: one is unlocked, and
the other one sees it. -/
theorem status_tells_last_commands_of_pair :
    let start : Chip × Nat := (⟨.replicate 16 0x1F7, 256⟩, 4)
    let jobs : List Job := [.start 0 .mcp4461 .b .volatileOnly 0,
      .start 1 .mcp4461 .d .volatileOnly 0, .perform 0 (.setLock false), .perform 1 .status,
      .perform 0 (.setProtection false)]
    let entries := (serve (Bus.cutOff Bus.Shared.busy) jobs .none start).entries
    entries[3]?.map Entry.answer = some (.channelStatus
        { channel := .d, writeActive := false, writeProtected := true, locked := false }) ∧
      entries[4]?.map Entry.answer = some (.refused (.io Bus.Shared.busy)) := by
  intro start jobs entries
  have hjobs : ∀ job ∈ jobs, job.OfWiper := by
    simp only [jobs, List.forall_mem_cons]
    exact ⟨.start .., .start .., .perform .., .perform .., .perform .., List.forall_mem_nil _⟩
  have hreserved : (Prod.fst start).register 5 &&& Status.reserved = Status.reserved := by
    decide
  have htold := (status_tells_last_commands (.cutOff Bus.Shared.busy) hreserved hjobs).1
  have hanswer := htold (entries.take 3) entries[3] (entries.drop 4) 1
    ⟨.mcp4461, .d, .volatileOnly, 256⟩ rfl rfl rfl (by decide +kernel)
  exact ⟨(congrArg some hanswer).trans (by decide +kernel), rfl⟩

end Bench

end WiperDriver
