import WiperDriver.Bench.Step

/-!
# Sessions

A session is a sequence of steps on the bench. It numbers the handles that it makes in the order in
which they succeed; a handle that is closed keeps its number. Every step leaves a record: its
answer, the transactions and log lines that it caused, and the wiper it was about.
-/

namespace WiperDriver.Bench

/-- What is at the end of a connection. -/
inductive Instrument where
  | bare
  | registers
  | wiper (wiper : Wiper)
  deriving DecidableEq, Repr, Inhabited

/-- A handle that is open. -/
structure Handle where
  connection : Connection
  instrument : Instrument
  deriving DecidableEq, Repr, Inhabited

/-- The bench in the middle of a session. -/
structure Session where
  state : State
  /-- The handles by number; a closed one is missing. -/
  handles : Array (Option Handle)

/-- How a step ended: its answer and the lines it reported. -/
structure Report where
  answer : Answer
  lines : List Log.Line

namespace Session

/-- The session with a change to the chip and what is around it. -/
def alter (session : Session) (change : World → World) : Session :=
  { session with state := { session.state with bus := change session.state.bus } }

/-- The session with the shared bus held or released. -/
def setHeld (session : Session) (held : Bool) : Session :=
  { session with state := { session.state with held } }

/-- The handle of a number, if it is open. -/
def handle? (session : Session) (number : Nat) : Option Handle :=
  session.handles[number]?.join

/-- The session with a handle changed or closed. -/
def setHandle (session : Session) (number : Nat) (handle : Option Handle) : Session :=
  { session with handles := session.handles.setIfInBounds number handle }

/-- The session with a new handle. -/
def addHandle (session : Session) (handle : Handle) : Report × Session :=
  (⟨.opened session.handles.size, []⟩,
    { session with handles := session.handles.push (some handle) })

/-! ## Making handles -/

/-- Fits a connection out as a new handle. A wiper that cannot be started loses its connection. -/
def fit (session : Session) (connection : Connection) : Fitting → Report × Session
  | .bare => session.addHandle ⟨connection, .bare⟩
  | .registers => session.addHandle ⟨connection, .registers⟩
  | .wiper model channel mode initial =>
    let exchange := connection.converse (Wiper.start model channel mode initial).run session.state
    let session := { session with state := exchange.state }
    match exchange.value with
    | .ok wiper =>
      let (report, session) := session.addHandle ⟨exchange.connection, .wiper wiper⟩
      ({ report with lines := exchange.lines }, session)
    | .error error => (⟨.refused error, exchange.lines⟩, session)

/-- Opens a device and fits it out as a new handle. -/
def fitDevice (session : Session) (opening : Linux.Device.Conversation Linux.Device)
    (fitting : Fitting) : Report × Session :=
  let outcome := opening.run.run World.respondKernel session.state.bus
  let session := session.alter fun _ => outcome.state
  match outcome.value with
  | .ok device => session.fit (.device device) fitting
  | .error error => (⟨.deviceRefused error, []⟩, session)

/-- Makes a new handle. A device file is tried for as long as another attempt can meet another
fault; more attempts would change nothing. -/
def connect (session : Session) (source : Source) (fitting : Fitting) : Report × Session :=
  match source with
  | .handle number =>
    match session.handle? number with
    | some handle => (session.setHandle number none).fit handle.connection fitting
    | none => (⟨.badHandle, []⟩, session)
  | .direct => session.fit .direct fitting
  | .exclusive => session.fit .exclusive fitting
  | .shared => session.fit .shared fitting
  | .transactional pins => session.fit (.transactional pins 0) fitting
  | .blocking pins => session.fit (.blocking pins 0) fitting
  | .bus bus =>
    session.fitDevice (Linux.Device.openBus bus session.state.bus.unsettled) fitting
  | .slave bus pins =>
    session.fitDevice (Linux.Device.openSlave bus pins session.state.bus.unsettled) fitting

/-! ## Using handles -/

/-- Runs a conversation over the connection of a handle. -/
def converse {α : Type} (session : Session) (number : Nat) (handle : Handle)
    (dialogue : Dialogue Bus.Call Bus.Answer α) (instrument : α → Instrument)
    (answer : α → Answer) : Report × Session :=
  let exchange := handle.connection.converse dialogue session.state
  let handle := ⟨exchange.connection, instrument exchange.value⟩
  (⟨answer exchange.value, exchange.lines⟩,
    { session with state := exchange.state }.setHandle number (some handle))

/-- Acts on the connection of a handle. -/
def actOnLink (session : Session) (number : Nat) (handle : Handle) :
    LinkAction → Report × Session
  | .connection => (⟨.connection handle.connection, []⟩, session)
  | .write bytes =>
    session.converse number handle (Dialogue.request (Bus.Call.write bytes))
      (fun _ => handle.instrument) fun
        | .ok () => .done
        | .error failure => .failed failure
  | .writeRead bytes length =>
    session.converse number handle (Dialogue.request (Bus.Call.writeRead bytes length))
      (fun _ => handle.instrument) fun
        | .ok reading => .reading reading
        | .error failure => .failed failure
  | .unwrap => (⟨.done, []⟩, session.setHandle number (some { handle with instrument := .bare }))
  | .close => (⟨.done, []⟩, session.setHandle number none)
  | .countCalls =>
    (⟨match handle.connection.calls? with
      | some count => .calls count
      | none => .badInput, []⟩, session.setHandle number none)
  | .describeDevice =>
    (⟨match handle.connection.device? with
      | some device => .device device
      | none => .badInput, []⟩, session)
  | .device operation =>
    match handle.connection with
    | .device device =>
      let outcome := (operation.perform.run.run device).run World.respondKernel session.state.bus
      let (result, device) := outcome.value
      (⟨.ofDevice result, []⟩,
        (session.alter fun _ => outcome.state).setHandle number
          (some { handle with connection := .device device }))
    | _ => (⟨.badInput, []⟩, session)

/-- Acts on the wiper of a handle. -/
def actOnWiper (session : Session) (number : Nat) (handle : Handle) (wiper : Wiper) :
    WiperAction → Report × Session
  | .position => (⟨.number wiper.position.toNat, []⟩, session)
  | .describe => (⟨.wiper wiper, []⟩, session)
  | .perform operation =>
    session.converse number handle (operation.perform.run.run wiper)
      (fun result => .wiper result.2) (fun result => .ofWiper result.1)

/-- Acts on an open handle. -/
def act (session : Session) (number : Nat) (handle : Handle) (request : Request) :
    Report × Session :=
  match request.link, handle.instrument, request.registers, request.wiper with
  | some action, _, _, _ => session.actOnLink number handle action
  | none, .registers, some operation, _ =>
    session.converse number handle operation.perform.run (fun _ => .registers) .ofRegisters
  | none, .wiper wiper, _, some action => session.actOnWiper number handle wiper action
  | _, _, _, _ => (⟨.badInput, []⟩, session)

/-! ## Steps -/

/-- Carries out a step. -/
def perform (session : Session) : Action → Report × Session
  | .malformed => (⟨.badInput, []⟩, session)
  | .connect source fitting => session.connect source fitting
  | .setRegister address value =>
    (⟨.done, []⟩,
      session.alter fun world => { world with chip := world.chip.setRegister address value })
  | .registers => (⟨.registers session.state.bus.chip.registers, []⟩, session)
  | .addFault fault =>
    (⟨.done, []⟩, session.alter fun world =>
      { world with faults := world.faults ++ [fault.shift world.transcript.size] })
  | .clearFaults => (⟨.done, []⟩, session.alter fun world => { world with faults := [] })
  | .hold => (⟨.done, []⟩, session.setHeld true)
  | .release => (⟨.done, []⟩, session.setHeld false)
  | .onHandle number request =>
    match session.handles[number]? with
    | some (some handle) => session.act number handle request
    | some none =>
      if request.argumentsFirst && request.link.isNone then (⟨.badInput, []⟩, session)
      else (⟨.badHandle, []⟩, session)
    | none => (⟨.badHandle, []⟩, session)

/-- The wiper at the end of a handle, if it is open and has one. -/
def wiper? (session : Session) (number : Nat) : Option Wiper :=
  match session.handle? number with
  | some ⟨_, .wiper wiper⟩ => some wiper
  | _ => none

end Session

/-- What a step leaves behind. -/
structure Record where
  answer : Answer
  /-- The transactions that the step caused. -/
  transcript : List String
  /-- The lines that the step reported. -/
  lines : List Log.Line
  /-- The wiper of the handle that the step made or was about, as it stands after the step. -/
  wiper : Option Wiper

namespace Session

/-- Carries out a step and records it. A new handle is what its step was about. -/
def record (session : Session) (step : Step) : Record × Session :=
  let (report, after) := session.perform step.action
  let focus := match report.answer with
    | .opened number => number
    | _ => step.focus
  ({ answer := report.answer
     transcript := (after.state.bus.transcript.extract session.state.bus.transcript.size).toList
     lines := report.lines
     wiper := after.wiper? focus }, after)

/-- Carries out steps one after another. -/
def run (session : Session) : List Step → List Record × Session
  | [] => ([], session)
  | step :: rest =>
    let (record, session) := session.record step
    let (records, session) := session.run rest
    (record :: records, session)

/-- A session about to begin. -/
def start (chip : Chip) (address : Option UInt16) (buses : List (String × UInt64)) : Session where
  state := ⟨false, { chip, address, buses, files := #[], faults := [], transcript := #[] }⟩
  handles := #[]

end Session

end WiperDriver.Bench
