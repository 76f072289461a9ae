import WiperDriver.Proofs.Registers.Orders
import WiperDriver.Proofs.Wiper.Faults

/-!
# Wiper operations under any bus

`prompt_perform` says once what an operation can do when nothing is known of the bus. `Asks` lists
what it can ask of the chip, after which other orders and in which modes, `Refusal` the errors that
are not the bus's, and `Leaves` what can become of the wiper. An operation that fails for whichever
reason leaves the wiper as it was, and one that meets a failed transaction makes no other
transaction and ends with its error. `prompt_start` is the same for taking control.
-/

namespace WiperDriver.Wiper

open Registers (Accepts AsksTerminals Concludes Only OnlyPulses Order Prompt)

variable {α β : Type}

/-- The operations that move the wiper by steps. -/
inductive Operation.IsStep : Operation → Prop
  | increase : IsStep .increase
  | decrease : IsStep .decrease
  | increaseBy (steps : UInt32) : IsStep (.increaseBy steps)
  | decreaseBy (steps : UInt32) : IsStep (.decreaseBy steps)

/-- The operations that are for a chip with EEPROM. -/
inductive Operation.ForEeprom : Operation → Prop
  | setMode (mode : Mode) : ForEeprom (.setMode mode)
  | nonVolatileValue : ForEeprom .nonVolatileValue
  | setLock (locked : Bool) : ForEeprom (.setLock locked)
  | setProtection (enabled : Bool) : ForEeprom (.setProtection enabled)

/-- What an operation can ask of the chip, after the orders that have succeeded. -/
inductive Asks (wiper : Wiper) : Operation → List Order → Order → Prop
  | update : Asks wiper .update [] (.read wiper.channel.volatileAddress)
  | move (target : Int32) (hmode : wiper.mode ≠ .nonVolatileOnly) :
    Asks wiper (.moveTo target) [] (.write wiper.channel.volatileAddress (wiper.clamp target))
  | store (target : Int32) (hmode : wiper.mode = .nonVolatileOnly) :
    Asks wiper (.moveTo target) [] (.write wiper.channel.nonVolatileAddress (wiper.clamp target))
  | copy (target : Int32) (hmode : wiper.mode = .volatileAndNonVolatile) :
    Asks wiper (.moveTo target) [.write wiper.channel.volatileAddress (wiper.clamp target)]
      (.write wiper.channel.nonVolatileAddress (wiper.clamp target))
  | stepTo {operation : Operation} (target : Int32) (hstep : operation.IsStep)
    (hmode : wiper.mode = .volatileOnly) :
    Asks wiper operation [] (.write wiper.channel.volatileAddress (wiper.clamp target))
  | burst {operation : Operation} (direction : Direction) (count : Nat) (hpos : 0 < count)
    (hcount : count ≤ Registers.maxBurst) (hstep : operation.IsStep)
    (hmode : wiper.mode = .volatileOnly) :
    Asks wiper operation [] (.pulse wiper.channel.volatileAddress direction count hcount)
  | nonVolatileValue (hmodel : wiper.model.hasEeprom = true) :
    Asks wiper .nonVolatileValue [] (.read wiper.channel.nonVolatileAddress)
  | status : Asks wiper .status [] (.read statusAddress)
  | terminals : Asks wiper .terminals [] (.read wiper.channel.terminalAddress)
  | setTerminals {setting : Terminals} {past : List Order} {order : Order}
    (hchannel : setting.channel = wiper.channel) (h : AsksTerminals setting past order) :
    Asks wiper (.setTerminals setting) past order
  | setLock (locked : Bool) (hcount : 1 ≤ Registers.maxBurst)
    (hmodel : wiper.model.hasEeprom = true) : Asks wiper (.setLock locked) []
      (.pulse wiper.channel.nonVolatileAddress (.ofBool locked) 1 hcount)
  | setProtection (enabled : Bool) (hcount : 1 ≤ Registers.maxBurst)
    (hmodel : wiper.model.hasEeprom = true) : Asks wiper (.setProtection enabled) []
      (.pulse protectionAddress (.ofBool enabled) 1 hcount)

/-- The errors that an operation ends with although no transaction has failed, after the orders that
have succeeded. -/
inductive Refusal (wiper : Wiper) : Operation → List Order → Error → Prop
  | mode {operation : Operation} (hstep : operation.IsStep) (hmode : wiper.mode ≠ .volatileOnly) :
    Refusal wiper operation [] .volatileOnly
  | eeprom {operation : Operation} (h : operation.ForEeprom)
    (hmodel : wiper.model.hasEeprom = false) : Refusal wiper operation [] .nonVolatileNotSupported
  | status (word : UInt16) : Refusal wiper .status [.read statusAddress] (.invalidStatus word)
  | channel (setting : Terminals) (hchannel : setting.channel ≠ wiper.channel) :
    Refusal wiper (.setTerminals setting) [] (.channelMismatch wiper.channel setting.channel)
  | word (setting : Terminals) (word : UInt16) (hchannel : setting.channel = wiper.channel) :
    Refusal wiper (.setTerminals setting) [.read setting.channel.terminalAddress]
      (.valueOutOfRange (setting.applyTo word))

/-- What a successful operation can make of the wiper. -/
inductive Leaves (wiper : Wiper) : Wiper → Prop
  | kept : Leaves wiper wiper
  | mode (mode : Mode) (h : wiper.model.checkMode mode = .ok ()) : Leaves wiper { wiper with mode }
  | read (value : UInt16) : Leaves wiper (wiper.withReading value)
  | moved (target : Int32) : Leaves wiper { wiper with position := wiper.clamp target }
  | burst (direction : Direction) (count : UInt16) (h : count ≤ wiper.room direction) :
    Leaves wiper { wiper with position := wiper.moved direction count }

/-- An end without a failed transaction: success, or a refusal that has changed nothing. -/
def Ends (wiper : Wiper) (reason : List Order → Error → Prop) (after : List Order)
    (ended : Except Error α × Wiper) : Prop :=
  match ended.1 with
  | .ok _ => Leaves wiper ended.2
  | .error error => reason after error ∧ ended.2 = wiper

/-- A dialogue of a wiper that asks for certain things only, stops at its first failure, and then
leaves the wiper as it was. -/
abbrev Heeds (wiper : Wiper) (asks : List Order → Order → Prop)
    (reason : List Order → Error → Prop) (past : List Order)
    (dialogue : Dialogue Bus.Call Bus.Answer (Except Error α × Wiper)) : Prop :=
  Prompt asks (fun error => (.error error, wiper)) (Ends wiper reason) past dialogue

section

variable {wiper : Wiper} {asks : List Order → Order → Prop} {reason : List Order → Error → Prop}
  {past : List Order}

/-- A register operation with permitted arguments, and what follows it. -/
theorem heeds_access {program : Registers.Program α} {permits : List Order → Order → Prop}
    {succeeds : List Order → Prop} {why : List Order → Error → Prop}
    {next : Except Error α → Dialogue Bus.Call Bus.Answer (Except Error β × Wiper)}
    (h : Prompt permits .error (Concludes succeeds why) past program.run)
    (hasks : ∀ before order, permits before order → asks before order)
    (hwhy : ∀ after error, why after error → reason after error)
    (hpass : ∀ error, next (.error error) = .done (.error error, wiper))
    (hrest : ∀ after value, succeeds after → Heeds wiper asks reason after (next (.ok value))) :
    Heeds wiper asks reason past (program.run >>= next) := by
  refine (h.mono hasks fun _ _ => id).bind hpass fun after result hresult => ?_
  cases result with
  | ok value => exact hrest after value hresult
  | error error =>
    rw [hpass]
    exact .done ⟨hwhy after error hresult, rfl⟩

/-- A register operation as an operation of the wiper. -/
theorem heeds_access_done {program : Registers.Program α} {permits : List Order → Order → Prop}
    {succeeds : List Order → Prop} {why : List Order → Error → Prop}
    (h : Prompt permits .error (Concludes succeeds why) past program.run)
    (hasks : ∀ before order, permits before order → asks before order)
    (hwhy : ∀ after error, why after error → reason after error) :
    Heeds wiper asks reason past (program.run >>= fun result => .done (result, wiper)) :=
  heeds_access h hasks hwhy (fun _ => rfl) fun _ _ _ => .done .kept

/-- Wrapping up the value of an operation changes nothing else. -/
theorem heeds_wrap {program : Program α} (h : Heeds wiper asks reason past (program.run.run wiper))
    (f : α → β) : Heeds wiper asks reason past ((f <$> program).run.run wiper) := by
  rw [run_wrap]
  refine h.map (fun _ => rfl) fun after ended hends => ?_
  obtain ⟨result | result, wiper'⟩ := ended
  · exact hends
  · exact hends

/-- An operation after a check that the chip has EEPROM. -/
theorem heeds_checkEeprom {dialogue : Dialogue Bus.Call Bus.Answer (Except Error α × Wiper)}
    (h : wiper.model.hasEeprom = true → Heeds wiper asks reason past dialogue)
    (hrefused : wiper.model.hasEeprom = false → reason past .nonVolatileNotSupported) :
    Heeds wiper asks reason past
      (match wiper.model.checkEeprom with
        | .ok () => dialogue
        | .error error => .done (.error error, wiper)) := by
  unfold Model.checkEeprom
  cases hmodel : wiper.model.hasEeprom with
  | true => exact h hmodel
  | false => exact .done ⟨hrefused hmodel, rfl⟩

/-- The one permitted order is among those that can be asked. -/
theorem asks_of_only {order : Order} (h : asks past order) :
    ∀ before asked, Only past order before asked → asks before asked := by
  rintro _ _ ⟨rfl, rfl⟩
  exact h

/-- So is the one permitted burst. -/
theorem asks_of_onlyPulses {address : UInt8} {direction : Direction} {count : Nat}
    (h : 0 < count → ∀ hcount, asks past (.pulse address direction count hcount)) :
    ∀ before asked, OnlyPulses past address direction count before asked → asks before asked := by
  rintro _ _ ⟨rfl, hpos, hcount, rfl⟩
  exact h hpos hcount

end

/-! ## One operation after the other -/

theorem heeds_update (wiper : Wiper) (reason : List Order → Error → Prop) :
    Heeds wiper (Asks wiper .update) reason [] (update.run.run wiper) := by
  rw [run_update]
  exact heeds_access (Registers.prompt_read_of_le wiper.channel.volatileAddress_le [])
    (asks_of_only .update) (fun _ _ => False.elim) (fun _ => rfl)
    fun _ value _ => .done (.read value)

/-- Writing a clamped target to the volatile register, which is where the wiper then is. -/
theorem heeds_setVolatile {wiper : Wiper} {target : Int32} {asks : List Order → Order → Prop}
    (hasks : asks [] (.write wiper.channel.volatileAddress (wiper.clamp target)))
    (reason : List Order → Error → Prop) :
    Heeds wiper asks reason []
      ((Registers.setValue wiper.channel (wiper.clamp target) false).run >>= fun
        | .ok () => .done (.ok (), { wiper with position := wiper.clamp target })
        | .error error => .done (.error error, wiper)) :=
  heeds_access (Registers.prompt_write_of_le wiper.channel.volatileAddress_le
      (wiper.clamp_le_maxWord target) [])
    (asks_of_only hasks) (fun _ _ => False.elim) (fun _ => rfl) fun _ _ _ => .done (.moved target)

/-- A move asks to write the registers that its mode names, one after the other. -/
theorem heeds_moveTo (target : Int32) (wiper : Wiper) (reason : List Order → Error → Prop) :
    Heeds wiper (Asks wiper (.moveTo target)) reason [] ((moveTo target).run.run wiper) := by
  have hmove := Registers.prompt_write_of_le wiper.channel.volatileAddress_le
    (wiper.clamp_le_maxWord target) []
  have hstore := Registers.prompt_write_of_le wiper.channel.nonVolatileAddress_le
    (wiper.clamp_le_maxWord target)
  rw [run_moveTo]
  split <;> rename_i hmode
  · exact heeds_setVolatile (.move target (by rw [hmode]; decide)) reason
  · exact heeds_access_done (hstore []) (asks_of_only (.store target hmode)) fun _ _ => False.elim
  · refine heeds_access hmove (asks_of_only (.move target (by rw [hmode]; decide)))
      (fun _ _ => False.elim) (fun _ => rfl) fun after _ hafter => ?_
    cases hafter
    exact heeds_access (hstore _) (asks_of_only (.copy target hmode)) (fun _ _ => False.elim)
      (fun _ => rfl) fun _ _ _ => .done (.moved target)

/-- A step asks for one write or one burst, and only where the volatile register is the target. -/
theorem heeds_step (direction : Direction) (steps : UInt32) (wiper : Wiper)
    {operation : Operation} (hstep : operation.IsStep) :
    Heeds wiper (Asks wiper operation) (Refusal wiper operation) []
      ((step direction steps).run.run wiper) := by
  rw [run_step]
  by_cases hmode : wiper.mode = .volatileOnly
  · rw [if_neg (not_not_intro hmode)]
    split
    · exact .done .kept
    simp only
    split
    · refine .say _ ?_
      rw [run_moveTo]
      split <;> rename_i htarget
      · exact heeds_setVolatile (.stepTo _ hstep hmode) _
      all_goals exact absurd (hmode.symm.trans htarget) (by decide)
    · next hfew =>
      have hcount : (wiper.reach direction steps).toNat ≤ 5 := by
        have hsteps : steps.toNat ≤ 5 :=
          Nat.not_lt.1 fun h => hfew (.inr (UInt32.lt_iff_toNat_lt.2 h))
        rw [toNat_reach]
        omega
      have hlength : (Int32.ofNat (wiper.reach direction steps).toNat).toInt.natAbs ≤
          Registers.maxBurst := by
        rw [toInt_ofNat_toNat, Int.natAbs_natCast, Registers.maxBurst]
        omega
      refine .say _ (heeds_access
        (Registers.prompt_pulse_of_le wiper.channel.volatileAddress_le hlength direction [])
        (asks_of_onlyPulses fun hpos hcount => .burst _ _ hpos hcount hstep hmode)
        (fun _ _ => False.elim) (fun _ => rfl) fun _ _ _ => .done ?_)
      exact .burst direction _ (reach_le_room wiper direction steps)
  · rw [if_pos hmode]
    exact .done ⟨.mode hstep hmode, rfl⟩

theorem heeds_setMode (mode : Mode) (wiper : Wiper) (asks : List Order → Order → Prop) :
    Heeds wiper asks (Refusal wiper (.setMode mode)) [] ((setMode mode).run.run wiper) := by
  rw [run_setMode]
  cases hmode : wiper.model.checkMode mode with
  | ok _ => exact .done (.mode mode hmode)
  | error error =>
    unfold Model.checkMode Model.checkEeprom at hmode
    split at hmode
    · cases hmode
    · split at hmode
      · cases hmode
      · next hmodel =>
        cases hmode
        exact .done ⟨.eeprom (.setMode mode) (Bool.eq_false_iff.2 hmodel), rfl⟩

theorem heeds_nonVolatileValue (wiper : Wiper) :
    Heeds wiper (Asks wiper .nonVolatileValue) (Refusal wiper .nonVolatileValue) []
      (nonVolatileValue.run.run wiper) := by
  rw [run_nonVolatileValue]
  refine heeds_checkEeprom (fun hmodel => ?_) (.eeprom .nonVolatileValue)
  exact heeds_access_done (Registers.prompt_read_of_le wiper.channel.nonVolatileAddress_le [])
    (asks_of_only (.nonVolatileValue hmodel)) fun _ _ => False.elim

theorem heeds_status (wiper : Wiper) :
    Heeds wiper (Asks wiper .status) (Refusal wiper .status) [] (status.run.run wiper) := by
  rw [run_status]
  refine heeds_access Registers.prompt_status (asks_of_only .status) (fun after error h => ?_)
    (fun _ => rfl) fun _ _ _ => .done .kept
  obtain ⟨rfl, word, rfl⟩ := h
  exact .status word

theorem heeds_terminals (wiper : Wiper) (reason : List Order → Error → Prop) :
    Heeds wiper (Asks wiper .terminals) reason [] (terminals.run.run wiper) :=
  heeds_access_done (Registers.prompt_terminals wiper.channel) (asks_of_only .terminals)
    fun _ _ => False.elim

theorem heeds_setTerminals (setting : Terminals) (wiper : Wiper) :
    Heeds wiper (Asks wiper (.setTerminals setting)) (Refusal wiper (.setTerminals setting)) []
      ((setTerminals setting).run.run wiper) := by
  rw [run_setTerminals]
  by_cases hchannel : setting.channel = wiper.channel
  · rw [if_pos hchannel]
    refine heeds_access_done (Registers.prompt_setTerminals setting)
      (fun _ _ h => .setTerminals hchannel h) fun after error h => ?_
    obtain ⟨rfl, word, rfl⟩ := h
    exact .word setting word hchannel
  · rw [if_neg hchannel]
    exact .done ⟨.channel setting hchannel, rfl⟩

theorem heeds_setLock (locked : Bool) (wiper : Wiper) :
    Heeds wiper (Asks wiper (.setLock locked)) (Refusal wiper (.setLock locked)) []
      ((setLock locked).run.run wiper) := by
  rw [run_setLock]
  refine heeds_checkEeprom (fun hmodel => ?_) (.eeprom (.setLock locked))
  exact heeds_access_done
    (Registers.prompt_pulse_of_le wiper.channel.nonVolatileAddress_le (by decide) _ [])
    (asks_of_onlyPulses fun _ hcount => .setLock locked hcount hmodel) fun _ _ => False.elim

theorem heeds_setProtection (enabled : Bool) (wiper : Wiper) :
    Heeds wiper (Asks wiper (.setProtection enabled)) (Refusal wiper (.setProtection enabled)) []
      ((setProtection enabled).run.run wiper) := by
  rw [run_setProtection]
  refine heeds_checkEeprom (fun hmodel => ?_) (.eeprom (.setProtection enabled))
  exact heeds_access_done (Registers.prompt_pulse_of_le (by decide) (by decide) _ [])
    (asks_of_onlyPulses fun _ hcount => .setProtection enabled hcount hmodel) fun _ _ => False.elim

/-! ## All operations -/

/-- **What an operation can do under any bus.** -/
theorem prompt_perform (operation : Operation) (wiper : Wiper) :
    Heeds wiper (Asks wiper operation) (Refusal wiper operation) []
      (operation.perform.run.run wiper) := by
  cases operation with
  | update => exact heeds_wrap (heeds_update wiper _) _
  | moveTo target => exact heeds_wrap (heeds_moveTo target wiper _) _
  | increase => exact heeds_wrap (heeds_step .up 1 wiper .increase) _
  | decrease => exact heeds_wrap (heeds_step .down 1 wiper .decrease) _
  | increaseBy steps => exact heeds_wrap (heeds_step .up steps wiper (.increaseBy steps)) _
  | decreaseBy steps => exact heeds_wrap (heeds_step .down steps wiper (.decreaseBy steps)) _
  | setMode mode => exact heeds_wrap (heeds_setMode mode wiper _) _
  | nonVolatileValue => exact heeds_wrap (heeds_nonVolatileValue wiper) _
  | status => exact heeds_wrap (heeds_status wiper) _
  | terminals => exact heeds_wrap (heeds_terminals wiper _) _
  | setTerminals setting => exact heeds_wrap (heeds_setTerminals setting wiper) _
  | setLock locked => exact heeds_wrap (heeds_setLock locked wiper) _
  | setProtection enabled => exact heeds_wrap (heeds_setProtection enabled wiper) _

/-- **How an attempt at an operation ends**, over any bus. -/
theorem attempt_ending {σ : Type} (responder : Bus.Responder σ) (operation : Operation)
    (wiper : Wiper) (state : σ) :
    Registers.Ending (Asks wiper operation) (fun error => (.error error, wiper))
      (Ends wiper (Refusal wiper operation)) [] (attempt responder operation wiper state) :=
  (prompt_perform operation wiper).ending responder state

/-- No operation asks for more than two things. -/
theorem Asks.length_past_lt {wiper : Wiper} {operation : Operation} {past : List Order}
    {order : Order} (h : Asks wiper operation past order) : past.length < 2 := by
  cases h with
  | copy => exact Nat.one_lt_two
  | setTerminals _ h =>
    cases h with
    | look => exact Nat.zero_lt_two
    | merge => exact Nat.one_lt_two
  | _ => exact Nat.zero_lt_two

/-! ## Taking control -/

/-- What taking control asks of the chip: where the wiper stands or, in the one mode without EEPROM,
to put it somewhere. -/
inductive AsksStart (model : Model) (channel : Channel) (mode : Mode) : List Order → Order → Prop
  | look (hmodel : model.hasEeprom = true) :
    AsksStart model channel mode [] (.read channel.volatileAddress)
  | place (position : UInt16) (hmode : mode = .volatileOnly)
    (hposition : position ≤ model.maxValue) :
    AsksStart model channel mode [] (.write channel.volatileAddress position)

/-- Taking control without a failed transaction: a wiper at a position of the model, or a refusal of
the channel or else of the mode. -/
def Begins (model : Model) (channel : Channel) (mode : Mode) : Except Error Wiper → Prop
  | .ok wiper => model.checkMode mode = .ok () ∧
    ∃ position, position ≤ model.maxValue ∧ wiper = { model, channel, mode, position }
  | .error error => model.checkChannel channel = .error error ∨ model.checkMode mode = .error error

/-- The two reasons to refuse control. -/
theorem Begins.error_eq {model : Model} {channel : Channel} {mode : Mode} {error : Error}
    (h : Begins model channel mode (.error error)) :
    error = .unsupportedChannel channel ∨ error = .nonVolatileNotSupported := by
  unfold Begins Model.checkChannel Model.checkMode Model.checkEeprom at h
  rcases h with h | h
  · split at h <;> cases h
    exact .inl rfl
  · split at h
    · cases h
    · split at h <;> cases h
      exact .inr rfl

/-- **What taking control can do under any bus.** -/
theorem prompt_start (model : Model) (channel : Channel) (mode : Mode) (initial : Int32) :
    Prompt (AsksStart model channel mode) .error (fun _ => Begins model channel mode) []
      (start model channel mode initial).run := by
  rw [run_start]
  cases hchannel : model.checkChannel channel with
  | error error => exact .done (.inl hchannel)
  | ok _ =>
    cases hmode : model.checkMode mode with
    | error error => exact .done (.inr hmode)
    | ok _ =>
      simp only
      split
      · next hmodel =>
        have hlook : Prompt (AsksStart model channel mode) .error _ []
            (Registers.read channel.volatileAddress).run :=
          (Registers.prompt_read_of_le channel.volatileAddress_le []).mono
            (asks_of_only (.look hmodel)) fun _ _ => id
        refine hlook.bind (fun _ => rfl) fun after result hresult => ?_
        rcases result with error | value
        · exact hresult.elim
        · exact .say _ (.done ⟨hmode, _, Std.min_le_right, rfl⟩)
      · next hmodel =>
        have hvolatile : mode = .volatileOnly :=
          (Model.checkMode_eq_ok_iff.1 hmode).resolve_right hmodel
        have hplace : Prompt (AsksStart model channel mode) .error _ []
            (Registers.write channel.volatileAddress _).run :=
          (Registers.prompt_write_of_le channel.volatileAddress_le
            (clamp_le_maxWord { model, channel, mode, position := 0 } initial) []).mono
            (asks_of_only (.place _ hvolatile (clamp_le _ initial)))
            fun _ _ => id
        refine hplace.bind (fun _ => rfl) fun after result hresult => ?_
        rcases result with error | ⟨⟨⟩⟩
        · exact hresult.elim
        · exact .say _ (.done ⟨hmode, _, clamp_le _ initial, rfl⟩)

end WiperDriver.Wiper
