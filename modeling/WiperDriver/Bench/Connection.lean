import WiperDriver.Bench.World
import WiperDriver.Bus.Lent
import WiperDriver.Bus.Shared
import WiperDriver.Linux.Device.Operation

/-!
# Connections

A connection is one end of a bus on the bench: it says over which bus, and as what, the chip is
reached. `Connection.converse` runs the driver's side of a conversation over it. Over every kind of
bus the driver's side is the same; only the adapter in between differs.
-/

namespace WiperDriver.Bench

/-- The bench with its shared bus, which somebody may hold. -/
abbrev State : Type :=
  Bus.Shared World

/-- An end of a bus. -/
inductive Connection where
  /-- The bus that leads to the chip alone. -/
  | direct
  /-- The same, lent for exclusive use. -/
  | exclusive
  /-- The same in shared hands. -/
  | shared
  /-- A bus that takes whole transactions, with the number of those that it was given. -/
  | transactional (pins : Pins) (calls : Nat)
  /-- A bus with two blocking calls, with the number of those that it was given. -/
  | blocking (pins : Pins) (calls : Nat)
  /-- A device file. -/
  | device (device : Linux.Device)
  deriving DecidableEq, Repr, Inhabited

namespace Connection

/-- The number of transactions that a bus behind an adapter was given. -/
def calls? : Connection → Option Nat
  | .transactional _ calls | .blocking _ calls => some calls
  | .direct | .exclusive | .shared | .device _ => none

/-- The device file behind a connection. -/
def device? : Connection → Option Linux.Device
  | .device target => some target
  | .direct | .exclusive | .shared | .transactional _ _ | .blocking _ _ => none

end Connection

/-- How a conversation over a connection ended. -/
structure Exchange (α : Type) where
  value : α
  connection : Connection
  state : State
  lines : List Log.Line

/-- Runs the driver's side of a conversation over a connection. -/
def Connection.converse {α : Type} (connection : Connection)
    (dialogue : Dialogue Bus.Call Bus.Answer α) (state : State) : Exchange α :=
  match connection with
  | .direct =>
    let outcome := dialogue.run World.respond state.bus
    ⟨outcome.value, connection, { state with bus := outcome.state }, outcome.lines⟩
  | .exclusive =>
    let outcome := (dialogue.adapt Bus.lent).run World.respond state.bus
    ⟨outcome.value, connection, { state with bus := outcome.state }, outcome.lines⟩
  | .shared =>
    let outcome := dialogue.run (Bus.Shared.respond World.respond) state
    ⟨outcome.value, connection, outcome.state, outcome.lines⟩
  | .transactional pins calls =>
    let outcome :=
      (dialogue.adapt (Bus.Transactional.adapter pins)).run World.respondTransactional state.bus
    ⟨outcome.value, .transactional pins (calls + outcome.calls.length),
      { state with bus := outcome.state }, outcome.lines⟩
  | .blocking pins calls =>
    let outcome :=
      (dialogue.adapt (Bus.Blocking.adapter pins)).run World.respondBlocking state.bus
    ⟨outcome.value, .blocking pins (calls + outcome.calls.length),
      { state with bus := outcome.state }, outcome.lines⟩
  | .device target =>
    let outcome := (dialogue.adapt target.adapter).run World.respondKernel state.bus
    ⟨outcome.value, connection, { state with bus := outcome.state }, outcome.lines⟩

end WiperDriver.Bench
