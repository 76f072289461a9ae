import WiperDriver.Proofs.Chip.Stream
import WiperDriver.Proofs.Wiper.Safety

/-!
# What a wiper keeps its hands off

A chip remembers what is written to EEPROM, and EEPROM wears out. So it matters which registers the
driver names, and with which commands, over the whole life of a wiper: from taking control to the
last operation, whatever the bus answers. `life` lists what was sent, one `Deed` for each operation,
and `life_restrained` says what is never among it.

What counts are the commands that the chip decodes, not the bytes that the driver means by them.
`May` lists once which command can be given in which mode and for which operation; every order that
an operation can give is among these (`Asks.may`), and each part of the result is a look at the
list.
-/

namespace WiperDriver

open Chip (Instruction slot)

/-- The commands of a transaction. -/
def Bus.Call.commands (call : Bus.Call) : List Instruction :=
  Chip.commands call.bytes

namespace Registers

/-! ## Orders as commands -/

/-- The commands that an order stands for. -/
def Order.commands : Order → List Instruction
  | .read address => [.read (slot address)]
  | .write address value => [.store (slot address) (0xFF < value)]
  | .pulse address direction count _ => List.replicate count (.pulse (slot address) direction)

/-- The order can be put into command bytes, and has something to say. -/
def Order.Fits : Order → Prop
  | .read address => address ≤ Command.maxAddress
  | .write address value => address ≤ Command.maxAddress ∧ value ≤ maxWord
  | .pulse address _ count _ => address ≤ Command.maxAddress ∧ 0 < count

/-- The chip finds in a transaction the commands of its order. -/
theorem Order.Fits.commands_call {order : Order} (h : order.Fits) :
    order.call.commands = order.commands := by
  cases order with
  | read address => exact Chip.commands_read (Command.encode_of_le h .read)
  | write address value => exact Chip.commands_write (Command.encode_of_le h.1 .write) h.2
  | pulse address direction count =>
    exact Chip.commands_burst (Command.encode_of_le h.1 (.ofDirection direction)) count

/-- An order names one register. -/
theorem Order.Fits.names_one {order : Order} (h : order.Fits) :
    ∃ register, order.commands ≠ [] ∧ ∀ command ∈ order.commands, command.address = register := by
  cases order with
  | read address => exact ⟨_, List.cons_ne_nil _ _, List.forall_mem_singleton.2 rfl⟩
  | write address value => exact ⟨_, List.cons_ne_nil _ _, List.forall_mem_singleton.2 rfl⟩
  | pulse address direction count =>
    refine ⟨slot address, fun hnone => ?_, fun command hmem => ?_⟩
    · exact absurd ((List.replicate_eq_nil_iff _).1 hnone) (Nat.ne_of_gt h.2)
    · rw [List.eq_of_mem_replicate hmem]
      rfl

end Registers

namespace Wiper

open Registers (AsksTerminals Order Succession)

variable {σ : Type} {model : Model} {channel : Channel} {mode : Mode} {wiper : Wiper}

/-- The address whose pulses switch EEPROM write protection, as the chip knows it. -/
def protectionSlot : Fin 16 :=
  slot protectionAddress

/-! ## What may be sent -/

/-- The commands that may be given in a mode, for an operation or, without one, to take control. -/
inductive May (model : Model) (channel : Channel) (mode : Mode) :
    Option Operation → Instruction → Prop
  | look {operation} : May model channel mode operation (.read channel.volatileSlot)
  | place {operation} (high : Bool) (hmode : mode ≠ .nonVolatileOnly) :
    May model channel mode operation (.store channel.volatileSlot high)
  | step {operation} (direction : Direction) (hmode : mode ≠ .nonVolatileOnly) :
    May model channel mode operation (.pulse channel.volatileSlot direction)
  | lookStored {operation} (hmodel : model.hasEeprom = true) :
    May model channel mode operation (.read channel.nonVolatileSlot)
  | store (target : Int32) (high : Bool) (hmode : mode ≠ .volatileOnly)
    (hmodel : model.hasEeprom = true) :
    May model channel mode (some (.moveTo target)) (.store channel.nonVolatileSlot high)
  | status {operation} : May model channel mode operation (.read Chip.statusSlot)
  | lookTerminals {operation} : May model channel mode operation (.read channel.terminalSlot)
  | terminals {operation} (high : Bool) :
    May model channel mode operation (.store channel.terminalSlot high)
  | lock (locked : Bool) (hmodel : model.hasEeprom = true) :
    May model channel mode (some (.setLock locked))
      (.pulse channel.nonVolatileSlot (.ofBool locked))
  | protection (enabled : Bool) (hmodel : model.hasEeprom = true) :
    May model channel mode (some (.setProtection enabled)) (.pulse protectionSlot (.ofBool enabled))

/-- All commands of an order may be given, and they reach the chip as they are meant. -/
structure Allowed (model : Model) (channel : Channel) (mode : Mode) (operation : Option Operation)
    (order : Order) : Prop where
  fits : order.Fits
  may : ∀ command ∈ order.commands, May model channel mode operation command

section

variable {operation : Option Operation} {address : UInt8}

theorem Allowed.read (haddress : address ≤ Command.maxAddress)
    (h : May model channel mode operation (.read (slot address))) :
    Allowed model channel mode operation (.read address) :=
  ⟨haddress, List.forall_mem_singleton.2 h⟩

theorem Allowed.write {value : UInt16} (haddress : address ≤ Command.maxAddress)
    (hvalue : value ≤ Registers.maxWord)
    (h : ∀ high, May model channel mode operation (.store (slot address) high)) :
    Allowed model channel mode operation (.write address value) :=
  ⟨⟨haddress, hvalue⟩, List.forall_mem_singleton.2 (h _)⟩

theorem Allowed.pulse {direction : Direction} {count : Nat} {hcount : count ≤ Registers.maxBurst}
    (haddress : address ≤ Command.maxAddress) (hpos : 0 < count)
    (h : May model channel mode operation (.pulse (slot address) direction)) :
    Allowed model channel mode operation (.pulse address direction count hcount) := by
  refine ⟨⟨haddress, hpos⟩, fun command hmem => ?_⟩
  rw [List.eq_of_mem_replicate hmem]
  exact h

end

/-- **An operation of a sound wiper asks for nothing but what it may.** A mode that writes to EEPROM
is one that only a model with EEPROM admits. -/
theorem Asks.may {operation : Operation} {past : List Order} {order : Order}
    (h : Asks wiper operation past order) (hsound : Sound model channel wiper) :
    Allowed model channel wiper.mode (some operation) order := by
  obtain ⟨rfl, rfl, -, hadmitted⟩ := hsound
  have heeprom (hmode : wiper.mode ≠ .volatileOnly) : wiper.model.hasEeprom = true :=
    hadmitted.resolve_left hmode
  have hvolatile := wiper.channel.volatileAddress_le
  have hstored := wiper.channel.nonVolatileAddress_le
  have hterminal := wiper.channel.terminalAddress_le
  cases h with
  | update => exact .read hvolatile .look
  | move target hmode =>
    exact .write hvolatile (wiper.clamp_le_maxWord target) fun high => .place high hmode
  | store target hmode =>
    have hmode : wiper.mode ≠ .volatileOnly := by rw [hmode]; decide
    exact .write hstored (wiper.clamp_le_maxWord target)
      fun high => .store target high hmode (heeprom hmode)
  | copy target hmode =>
    have hmode : wiper.mode ≠ .volatileOnly := by rw [hmode]; decide
    exact .write hstored (wiper.clamp_le_maxWord target)
      fun high => .store target high hmode (heeprom hmode)
  | stepTo target _ hmode =>
    have hmode : wiper.mode ≠ .nonVolatileOnly := by rw [hmode]; decide
    exact .write hvolatile (wiper.clamp_le_maxWord target) fun high => .place high hmode
  | burst direction count hpos hcount _ hmode =>
    exact .pulse hvolatile hpos (.step direction (by rw [hmode]; decide))
  | nonVolatileValue hmodel => exact .read hstored (.lookStored hmodel)
  | status => exact .read (by decide) .status
  | terminals => exact .read hterminal .lookTerminals
  | setTerminals hchannel hasked =>
    cases hasked with
    | look =>
      rw [hchannel]
      exact .read hterminal .lookTerminals
    | merge word hfits =>
      rw [hchannel]
      exact .write hterminal hfits .terminals
  | setLock locked _ hmodel => exact .pulse hstored Nat.one_pos (.lock locked hmodel)
  | setProtection enabled _ hmodel =>
    exact .pulse (by decide) Nat.one_pos (.protection enabled hmodel)

/-- Neither does taking control. -/
theorem AsksStart.may {past : List Order} {order : Order}
    (h : AsksStart model channel mode past order) : Allowed model channel mode none order := by
  have hvolatile := channel.volatileAddress_le
  cases h with
  | look => exact .read hvolatile .look
  | place position hmode hposition =>
    have hmode : mode ≠ .nonVolatileOnly := by rw [hmode]; decide
    exact .write hvolatile (UInt16.le_trans hposition (maxValue_le_maxWord model))
      fun high => .place high hmode

/-- The operations whose pulses are commands to the chip as a whole. -/
inductive Operation.IsSwitch : Operation → Prop
  | setLock (locked : Bool) : IsSwitch (.setLock locked)
  | setProtection (enabled : Bool) : IsSwitch (.setProtection enabled)

/-- A pulse at an EEPROM address changes a flag of STATUS, and so does one for write protection. -/
theorem changed?_switch (channel : Channel) (direction : Direction) :
    (Instruction.pulse channel.nonVolatileSlot direction).changed? = some Chip.statusSlot ∧
      (Instruction.pulse protectionSlot direction).changed? = some Chip.statusSlot := by
  cases channel <;> exact ⟨rfl, rfl⟩

/-- Such an operation asks for a single pulse that changes STATUS, before anything else. -/
theorem Asks.once {operation : Operation} {past : List Order} {order : Order}
    (h : Asks wiper operation past order) (hswitch : operation.IsSwitch) :
    past = [] ∧ order.Fits ∧
      ∃ command, order.commands = [command] ∧ command.changed? = some Chip.statusSlot := by
  cases hswitch with
  | setLock locked =>
    cases h with
    | setLock =>
      exact ⟨rfl, ⟨wiper.channel.nonVolatileAddress_le, Nat.one_pos⟩, _, rfl,
        (changed?_switch wiper.channel _).1⟩
    | stepTo _ hstep | burst _ _ _ _ hstep => cases hstep
  | setProtection enabled =>
    cases h with
    | setProtection =>
      exact ⟨rfl, ⟨by decide, Nat.one_pos⟩, _, rfl, (changed?_switch wiper.channel _).2⟩
    | stepTo _ hstep | burst _ _ _ _ hstep => cases hstep

/-! ## The life of a wiper -/

/-- What was sent for one operation, or to take control. -/
structure Deed where
  /-- The operation, unless control was taken. -/
  operation : Option Operation
  /-- The mode in which it was begun. -/
  mode : Mode
  /-- The transactions. -/
  calls : List Bus.Call

/-- The commands of a deed. -/
def Deed.commands (deed : Deed) : List Instruction :=
  deed.calls.flatMap Bus.Call.commands

/-- What is sent when operations are performed one after another. -/
def deeds (responder : Bus.Responder σ) : List Operation → Wiper → σ → List Deed
  | [], _, _ => []
  | operation :: later, wiper, state =>
    let outcome := attempt responder operation wiper state
    ⟨some operation, wiper.mode, outcome.calls⟩ ::
      deeds responder later outcome.value.2 outcome.state

/-- What is sent when control is taken of a channel and operations are then performed. Without
control there are none. -/
def life (responder : Bus.Responder σ) (model : Model) (channel : Channel) (mode : Mode)
    (initial : Int32) (operations : List Operation) (state : σ) : List Deed :=
  let outcome := (start model channel mode initial).run.run responder state
  ⟨none, mode, outcome.calls⟩ ::
    match outcome.value with
    | .ok wiper => deeds responder operations wiper outcome.state
    | .error _ => []

/-! ## Restraint -/

/-- A command to one of the three registers of a channel, a look at STATUS, or a pulse at the
address of write protection. -/
def Named (channel : Channel) (command : Instruction) : Prop :=
  command.address = channel.volatileSlot ∨ command.address = channel.nonVolatileSlot ∨
    command.address = channel.terminalSlot ∨ command = .read Chip.statusSlot ∨
    ∃ direction, command = .pulse protectionSlot direction

/-- What a deed has kept its hands off. -/
structure Restrained (model : Model) (channel : Channel) (deed : Deed) : Prop where
  /-- Every transaction names one register. -/
  names_one : ∀ call ∈ deed.calls, ∃ register,
    call.commands ≠ [] ∧ ∀ command ∈ call.commands, command.address = register
  /-- It is one that the channel has to do with. -/
  named : ∀ command ∈ deed.commands, Named channel command
  /-- The wiper does not move while EEPROM alone is the target. -/
  volatile : deed.mode = .nonVolatileOnly →
    ∀ command ∈ deed.commands, command.address = channel.volatileSlot → ¬ command.Writes
  /-- EEPROM is written only if a move is asked for while it is a target. -/
  stored : ∀ high, .store channel.nonVolatileSlot high ∈ deed.commands →
    deed.mode ≠ .volatileOnly ∧ ∃ target, deed.operation = some (.moveTo target)
  /-- A pulse at the EEPROM address is a lock command that was asked for, and comes alone. -/
  lock : ∀ direction, .pulse channel.nonVolatileSlot direction ∈ deed.commands →
    ∃ locked, deed.operation = some (.setLock locked) ∧
      deed.commands = [.pulse channel.nonVolatileSlot (.ofBool locked)]
  /-- So is a pulse at the address of write protection. -/
  protection : ∀ direction, .pulse protectionSlot direction ∈ deed.commands →
    ∃ enabled, deed.operation = some (.setProtection enabled) ∧
      deed.commands = [.pulse protectionSlot (.ofBool enabled)]
  /-- On a chip without EEPROM none of its addresses is named. -/
  eeprom : model.hasEeprom = false → ∀ command ∈ deed.commands,
    command.address ≠ channel.nonVolatileSlot ∧ command.address ≠ protectionSlot

/-! ### A look at the list -/

section

variable {operation : Option Operation} {command : Instruction}

theorem protectionSlot_ne (channel : Channel) :
    channel.volatileSlot ≠ protectionSlot ∧ channel.nonVolatileSlot ≠ protectionSlot ∧
      channel.terminalSlot ≠ protectionSlot := by
  cases channel <;> decide

theorem May.named (h : May model channel mode operation command) : Named channel command := by
  cases h with
  | look | place | step => exact .inl rfl
  | lookStored | store | lock => exact .inr (.inl rfl)
  | lookTerminals | terminals => exact .inr (.inr (.inl rfl))
  | status => exact .inr (.inr (.inr (.inl rfl)))
  | protection enabled => exact .inr (.inr (.inr (.inr ⟨_, rfl⟩)))

theorem May.not_writes (h : May model channel mode operation command)
    (hmode : mode = .nonVolatileOnly) (haddress : command.address = channel.volatileSlot) :
    ¬ command.Writes := by
  cases h with
  | look | lookStored | status | lookTerminals => exact id
  | place _ hother | step _ hother => exact absurd hmode hother
  | store | lock => exact absurd haddress (channel.nonVolatileSlot_ne_volatileSlot channel)
  | terminals => exact absurd haddress (channel.terminalSlot_ne_volatileSlot channel)
  | protection => exact absurd haddress.symm (protectionSlot_ne channel).1

theorem May.moveTo_of_store {high : Bool}
    (h : May model channel mode operation (.store channel.nonVolatileSlot high)) :
    mode ≠ .volatileOnly ∧ ∃ target, operation = some (.moveTo target) := by
  generalize haddress : channel.nonVolatileSlot = address at h
  cases h with
  | place => exact absurd haddress (channel.nonVolatileSlot_ne_volatileSlot channel)
  | store target _ hmode => exact ⟨hmode, target, rfl⟩
  | terminals => exact absurd haddress.symm (channel.terminalSlot_ne_nonVolatileSlot channel)

theorem May.setLock_of_pulse {direction : Direction}
    (h : May model channel mode operation (.pulse channel.nonVolatileSlot direction)) :
    ∃ locked, operation = some (.setLock locked) ∧ direction = .ofBool locked := by
  generalize haddress : channel.nonVolatileSlot = address at h
  cases h with
  | step => exact absurd haddress (channel.nonVolatileSlot_ne_volatileSlot channel)
  | lock locked => exact ⟨locked, rfl, rfl⟩
  | protection => exact absurd haddress (protectionSlot_ne channel).2.1

theorem May.setProtection_of_pulse {direction : Direction}
    (h : May model channel mode operation (.pulse protectionSlot direction)) :
    ∃ enabled, operation = some (.setProtection enabled) ∧ direction = .ofBool enabled := by
  generalize haddress : protectionSlot = address at h
  cases h with
  | step => exact absurd haddress.symm (protectionSlot_ne channel).1
  | lock => exact absurd haddress.symm (protectionSlot_ne channel).2.1
  | protection enabled => exact ⟨enabled, rfl, rfl⟩

theorem May.address_ne (h : May model channel mode operation command)
    (hmodel : model.hasEeprom = false) :
    command.address ≠ channel.nonVolatileSlot ∧ command.address ≠ protectionSlot := by
  have hnone : model.hasEeprom ≠ true := Bool.eq_false_iff.1 hmodel
  cases h with
  | look | place | step =>
    exact ⟨(channel.nonVolatileSlot_ne_volatileSlot channel).symm, (protectionSlot_ne channel).1⟩
  | status => exact ⟨channel.status_ne_nonVolatileSlot, by decide⟩
  | lookTerminals | terminals =>
    exact ⟨channel.terminalSlot_ne_nonVolatileSlot channel, (protectionSlot_ne channel).2.2⟩
  | lookStored h | store _ _ _ h | lock _ h | protection _ h => exact absurd h hnone

end

/-! ### Whole deeds -/

section

variable {deed : Deed} {orders : List Order}

/-- The commands of a deed are those of its orders. -/
theorem Deed.commands_eq (hcalls : deed.calls = orders.map Order.call)
    (hfits : ∀ order ∈ orders, order.Fits) : deed.commands = orders.flatMap Order.commands := by
  rw [commands, hcalls, List.flatMap_map, List.flatMap_def, List.flatMap_def]
  exact congrArg List.flatten
    (List.map_congr_left fun order hmem => (hfits order hmem).commands_call)

/-- A deed whose orders are all allowed is restrained, if switches are thrown once. -/
theorem restrained_of_allowed (hcalls : deed.calls = orders.map Order.call)
    (hallowed : ∀ order ∈ orders, Allowed model channel deed.mode deed.operation order)
    (honce : ∀ operation, deed.operation = some operation → operation.IsSwitch →
      ∀ command ∈ deed.commands, deed.commands = [command]) : Restrained model channel deed := by
  have hcommands := deed.commands_eq hcalls fun order hmem => (hallowed order hmem).fits
  have hmay : ∀ command ∈ deed.commands, May model channel deed.mode deed.operation command := by
    intro command hmem
    rw [hcommands, List.mem_flatMap] at hmem
    obtain ⟨order, horder, hmem⟩ := hmem
    exact (hallowed order horder).may command hmem
  refine ⟨fun call hcall => ?_, fun command hmem => (hmay command hmem).named,
    fun hmode command hmem => (hmay command hmem).not_writes hmode,
    fun high hmem => (hmay _ hmem).moveTo_of_store, fun direction hmem => ?_,
    fun direction hmem => ?_, fun hmodel command hmem => (hmay command hmem).address_ne hmodel⟩
  · rw [hcalls, List.mem_map] at hcall
    obtain ⟨order, horder, rfl⟩ := hcall
    have hfits := (hallowed order horder).fits
    rw [hfits.commands_call]
    exact hfits.names_one
  · obtain ⟨locked, hasked, rfl⟩ := (hmay _ hmem).setLock_of_pulse
    exact ⟨locked, hasked, honce _ hasked (.setLock locked) _ hmem⟩
  · obtain ⟨enabled, hasked, rfl⟩ := (hmay _ hmem).setProtection_of_pulse
    exact ⟨enabled, hasked, honce _ hasked (.setProtection enabled) _ hmem⟩

end

/-- What is sent to take control is allowed. -/
theorem start_orders (responder : Bus.Responder σ) (model : Model) (channel : Channel)
    (mode : Mode) (initial : Int32) (state : σ) :
    ∃ orders : List Order, ((start model channel mode initial).run.run responder state).calls =
        orders.map Order.call ∧
      ∀ order ∈ orders, Allowed model channel mode none order := by
  obtain ⟨orders, hsuccession, hcalls⟩ :=
    (prompt_start model channel mode initial).orders responder state
  refine ⟨orders, hcalls, fun order hmem => ?_⟩
  obtain ⟨past, hasked⟩ := hsuccession.permitted order hmem
  exact hasked.may

/-- Taking control is restrained. -/
theorem restrained_start (responder : Bus.Responder σ) (model : Model) (channel : Channel)
    (mode : Mode) (initial : Int32) (state : σ) :
    Restrained model channel
      ⟨none, mode, ((start model channel mode initial).run.run responder state).calls⟩ := by
  obtain ⟨orders, hcalls, hallowed⟩ := start_orders responder model channel mode initial state
  exact restrained_of_allowed hcalls hallowed fun _ hnone => nomatch hnone

/-- What an operation of a sound wiper sends is allowed. -/
theorem attempt_orders (responder : Bus.Responder σ) (operation : Operation)
    (hsound : Sound model channel wiper) (state : σ) :
    ∃ orders, Succession (Asks wiper operation) [] orders ∧
      (attempt responder operation wiper state).calls = orders.map Order.call ∧
      ∀ order ∈ orders, Allowed model channel wiper.mode (some operation) order := by
  obtain ⟨orders, hsuccession, hcalls⟩ := (prompt_perform operation wiper).orders responder state
  refine ⟨orders, hsuccession, hcalls, fun order hmem => ?_⟩
  obtain ⟨past, hasked⟩ := hsuccession.permitted order hmem
  exact hasked.may hsound

/-- Every operation of a sound wiper is restrained. -/
theorem restrained_attempt (responder : Bus.Responder σ) (operation : Operation)
    (hsound : Sound model channel wiper) (state : σ) :
    Restrained model channel
      ⟨some operation, wiper.mode, (attempt responder operation wiper state).calls⟩ := by
  obtain ⟨orders, hsuccession, hcalls, hallowed⟩ := attempt_orders responder operation hsound state
  refine restrained_of_allowed hcalls hallowed fun asked hasked hswitch command hmem => ?_
  cases hasked
  rw [Deed.commands_eq hcalls fun order hmem => (hallowed order hmem).fits] at hmem ⊢
  obtain ⟨order, horder, hmem⟩ := List.mem_flatMap.1 hmem
  have honly : orders = [order] :=
    hsuccession.eq_singleton (fun past order h => (h.once hswitch).1) horder
  obtain ⟨past, hasked⟩ := hsuccession.permitted order horder
  obtain ⟨-, -, single, hsingle, -⟩ := hasked.once hswitch
  rw [hsingle, List.mem_singleton] at hmem
  rw [honly, List.flatMap_singleton, hsingle, hmem]

/-! ## The result -/

/-- So is every one in a row. -/
theorem restrained_deeds (responder : Bus.Responder σ) (operations : List Operation)
    (hsound : Sound model channel wiper) (state : σ) :
    ∀ deed ∈ deeds responder operations wiper state, Restrained model channel deed := by
  induction operations generalizing wiper state with
  | nil => exact nofun
  | cons operation later ih =>
    exact List.forall_mem_cons.2 ⟨restrained_attempt responder operation hsound state,
      ih (attempt_sound hsound responder state operation) _⟩

/-- **A wiper keeps its hands off what is not its own, and off EEPROM unless asked.** From taking
control to the last of any operations, in whatever modes they were begun and whatever the bus has
answered to them, every transaction holds commands to one register of the channel, a look at STATUS,
or a pulse at the address of write protection. Among them

* none moves the wiper while EEPROM alone is the target;
* a write to EEPROM belongs to a move, in a mode that includes EEPROM;
* a pulse at an EEPROM address is the one command of the switch that was asked for;
* on a chip without EEPROM none of its addresses is ever named. -/
theorem life_restrained (responder : Bus.Responder σ) (model : Model) (channel : Channel)
    (mode : Mode) (initial : Int32) (operations : List Operation) (state : σ) :
    ∀ deed ∈ life responder model channel mode initial operations state,
      Restrained model channel deed := by
  unfold life
  refine List.forall_mem_cons.2
    ⟨restrained_start responder model channel mode initial state, ?_⟩
  cases hstart : ((start model channel mode initial).run.run responder state).value with
  | ok wiper => exact restrained_deeds responder operations (start_sound hstart) _
  | error error => exact nofun

/-- A chip without EEPROM, asked to make EEPROM a target and then to move: the move is a write to
the volatile register, and names nothing of EEPROM. -/
theorem life_restrained_without_eeprom :
    let deeds := life Chip.respond .mcp4651 .b .volatileOnly 5
      [.setMode .volatileAndNonVolatile, .moveTo 9] ⟨Chip.powerUp, 256⟩
    let move : Deed := ⟨some (.moveTo 9), .volatileOnly, [(Order.write 1 9).call]⟩
    move ∈ deeds ∧ ∀ command ∈ move.commands,
      command.address ≠ Channel.b.nonVolatileSlot ∧ command.address ≠ protectionSlot := by
  intro deeds move
  have hmove : move ∈ deeds := List.mem_of_getElem? (i := 2) rfl
  exact ⟨hmove, (life_restrained Chip.respond .mcp4651 .b .volatileOnly 5
    [.setMode .volatileAndNonVolatile, .moveTo 9] ⟨Chip.powerUp, 256⟩ move hmove).eeprom rfl⟩

end Wiper

end WiperDriver
