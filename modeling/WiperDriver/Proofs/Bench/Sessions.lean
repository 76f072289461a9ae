import WiperDriver.Bench.Session
import WiperDriver.Proofs.Bench.Connections
import WiperDriver.Proofs.Wiper.Orders

/-!
# Sessions over different buses

Two sessions are matched if their chips are the same, and their handles are for the same instruments
over connections that lead to the chip, over whichever kind of bus each of them does
(`Session.Matched`). What the driver is told to do, step by step, cannot tell one of them from the
other: `Matched.perform` is one step and `Matched.run` a whole session. `transport_independence`
adds where matched sessions come from: a chip at the end of any two buses.
-/

namespace WiperDriver.Bench

open Registers (Order Prompt)

variable {α : Type}

/-- The transactions of orders are brief. -/
theorem brief_call (order : Order) : Brief order.call := by
  cases order with
  | read => exact ⟨Nat.le_of_ble_eq_true rfl, Nat.le_of_ble_eq_true rfl⟩
  | write | pulse => trivial

/-! ## What the driver is told to do, and what is seen of it -/

/-- The request does not use the connection behind the driver's back: it is an operation of what is
at the end of the handle, or it takes that off, or closes the handle. -/
def Request.OfDriver (request : Request) : Prop :=
  ∀ action, request.link = some action → action = .unwrap ∨ action = .close

/-- The actions that use connections through the driver only, and those that do nothing to the
bus. -/
inductive Action.OfDriver : Action → Prop
  | malformed : OfDriver .malformed
  | connect (number : Nat) (fitting : Fitting) : OfDriver (.connect (.handle number) fitting)
  | setRegister (address : Fin 16) (value : UInt16) : OfDriver (.setRegister address value)
  | registers : OfDriver .registers
  | onHandle (number : Nat) (request : Request) (h : request.OfDriver) :
    OfDriver (.onHandle number request)

/-- What is seen of a step on the driver's side: its answer, its lines, the wiper that it was about,
and how many transactions it took. -/
def Record.seen (record : Record) : Answer × List Log.Line × Option Wiper × Nat :=
  (record.answer, record.lines, record.wiper, record.transcript.length)

/-- Over a connection from this source a chip at a slave address is reached, if these are the buses
that have a device file. -/
inductive Source.Reaches (address : Option UInt16) (buses : List (String × UInt64)) :
    Source → Prop
  | direct : Reaches address buses .direct
  | exclusive : Reaches address buses .exclusive
  | shared : Reaches address buses .shared
  | transactional (pins : Pins) (h : address.all (· = pins.slaveAddress) = true) :
    Reaches address buses (.transactional pins)
  | blocking (pins : Pins) (h : address.all (· = pins.slaveAddress) = true) :
    Reaches address buses (.blocking pins)
  | slave (bus : UInt8) (pins : Pins) (name : String) (mask : UInt64)
    (h : address.all (· = pins.slaveAddress) = true)
    (hfile : buses.find? (fun file => "/dev/i2c-" ++ file.1 = Linux.Device.path bus) =
      some (name, mask))
    (hmask : (Linux.Capabilities.mk mask).combined = true) : Reaches address buses (.slave bus pins)

namespace Session

/-! ## Sessions between which nothing differs but how the chip is reached -/

/-- What is at the end of each handle. -/
def instruments (session : Session) : Array (Option Instrument) :=
  session.handles.map (·.map Handle.instrument)

/-- Every open handle leads to the chip. -/
def Serves (session : Session) : Prop :=
  ∀ (number : Nat) (handle : Handle), session.handles[number]? = some (some handle) →
    handle.connection.Leads session.state

theorem instruments_setHandle (session : Session) (number : Nat) (handle : Option Handle) :
    (session.setHandle number handle).instruments =
      session.instruments.setIfInBounds number (handle.map Handle.instrument) :=
  Array.map_setIfInBounds

theorem instruments_addHandle (session : Session) (handle : Handle) :
    (session.addHandle handle).2.instruments =
      session.instruments.push (some handle.instrument) :=
  Array.map_push

theorem size_instruments (session : Session) :
    session.instruments.size = session.handles.size :=
  Array.size_map

/-- Handles go on leading to the chip while nothing around it changes. -/
theorem Serves.later {session : Session} (h : session.Serves) {state : State}
    (hlater : Undisturbed session.state state) : { session with state }.Serves :=
  fun number handle hhandle => (h number handle hhandle).later hlater

theorem Serves.setHandle {session : Session} (h : session.Serves) (number : Nat)
    {handle : Option Handle}
    (hhandle : ∀ opened, handle = some opened → opened.connection.Leads session.state) :
    (session.setHandle number handle).Serves := by
  intro place opened hplace
  have hplace' : (session.handles.setIfInBounds number handle)[place]? = some (some opened) :=
    hplace
  rw [Array.getElem?_setIfInBounds] at hplace'
  split at hplace'
  · split at hplace'
    · exact hhandle opened (Option.some.inj hplace')
    · cases hplace'
  · exact h place opened hplace'

theorem Serves.addHandle {session : Session} (h : session.Serves) {handle : Handle}
    (hhandle : handle.connection.Leads session.state) : (session.addHandle handle).2.Serves := by
  intro place opened hplace
  have hplace' : (session.handles.push (some handle))[place]? = some (some opened) := hplace
  rw [Array.getElem?_push] at hplace'
  split at hplace'
  · cases hplace'
    exact hhandle
  · exact h place opened hplace'

/-- Two sessions between which nothing differs but how the chip is reached. -/
structure Matched (one other : Session) : Prop where
  chip : one.state.bus.chip = other.state.bus.chip
  instruments : one.instruments = other.instruments
  one_serves : one.Serves
  other_serves : other.Serves

namespace Matched

variable {one other : Session}

/-- Handles of the same number are both open, both closed, or there are none. -/
theorem handles_cases (h : Matched one other) (number : Nat) :
    one.handles[number]? = none ∧ other.handles[number]? = none ∨
      one.handles[number]? = some none ∧ other.handles[number]? = some none ∨
        ∃ link link' instrument, one.handles[number]? = some (some ⟨link, instrument⟩) ∧
          other.handles[number]? = some (some ⟨link', instrument⟩) := by
  have hsame : one.instruments[number]? = other.instruments[number]? := by rw [h.instruments]
  unfold Session.instruments at hsame
  rw [Array.getElem?_map, Array.getElem?_map] at hsame
  generalize one.handles[number]? = here at hsame ⊢
  generalize other.handles[number]? = there at hsame ⊢
  rcases here with _ | _ | ⟨link, instrument⟩ <;> rcases there with _ | _ | ⟨link', instrument'⟩
  case none.none => exact .inl ⟨rfl, rfl⟩
  case some.none.some.none => exact .inr (.inl ⟨rfl, rfl⟩)
  case some.some.some.some =>
    have hinstrument : instrument = instrument' := Option.some.inj (Option.some.inj hsame)
    rw [hinstrument]
    exact .inr (.inr ⟨link, link', instrument', rfl, rfl⟩)
  all_goals cases hsame

/-- A step on matched sessions: it reports the same, makes as many transactions, and leaves matched
sessions behind. -/
structure Alike (one other : Session) (one' other' : Report × Session) : Prop where
  report : one'.1 = other'.1
  grows : ∃ count,
    one'.2.state.bus.transcript.size = one.state.bus.transcript.size + count ∧
      other'.2.state.bus.transcript.size = other.state.bus.transcript.size + count
  matched : Matched one'.2 other'.2

/-- A step that says the same and does nothing. -/
theorem alike_same (h : Matched one other) (report : Report) :
    Alike one other (report, one) (report, other) :=
  ⟨rfl, ⟨0, rfl, rfl⟩, h⟩

/-- Handles can be changed or closed in both. -/
theorem setHandle (h : Matched one other) (number : Nat) {handle handle' : Option Handle}
    (hsame : handle.map Handle.instrument = handle'.map Handle.instrument)
    (hleads : ∀ opened, handle = some opened → opened.connection.Leads one.state)
    (hleads' : ∀ opened, handle' = some opened → opened.connection.Leads other.state) :
    Matched (one.setHandle number handle) (other.setHandle number handle') where
  chip := h.chip
  instruments := by rw [instruments_setHandle, instruments_setHandle, h.instruments, hsame]
  one_serves := h.one_serves.setHandle number hleads
  other_serves := h.other_serves.setHandle number hleads'

/-- So in particular they can be closed. -/
theorem closeHandle (h : Matched one other) (number : Nat) :
    Matched (one.setHandle number none) (other.setHandle number none) := by
  refine h.setHandle number rfl ?_ ?_ <;> rintro _ ⟨⟩

/-- What two conversations leave that have gone the same way. -/
structure Agree (one other : Session) (exchange exchange' : Exchange α) : Prop where
  value : exchange.value = exchange'.value
  lines : exchange.lines = exchange'.lines
  grows : ∃ count,
    exchange.state.bus.transcript.size = one.state.bus.transcript.size + count ∧
      exchange'.state.bus.transcript.size = other.state.bus.transcript.size + count
  matched : Matched { one with state := exchange.state } { other with state := exchange'.state }
  one_leads : exchange.connection.Leads exchange.state
  other_leads : exchange'.connection.Leads exchange'.state

/-- **Conversations over connections that lead to the chip go the same way**, because both go as
with the chip itself. -/
theorem agree (h : Matched one other) {link link' : Connection} (hlink : link.Leads one.state)
    (hlink' : link'.Leads other.state) {dialogue : Dialogue Bus.Call Bus.Answer α}
    (hbrief : dialogue.Asks Brief) :
    Agree one other (link.converse dialogue one.state) (link'.converse dialogue other.state) := by
  obtain ⟨hserved, hundisturbed, hleads⟩ := link.delivered hlink hbrief
  obtain ⟨hserved', hundisturbed', hleads'⟩ := link'.delivered hlink' hbrief
  rw [← h.chip] at hserved'
  have hchip : (link.converse dialogue one.state).state.bus.chip =
      (link'.converse dialogue other.state).state.bus.chip := by
    rw [hserved.after_eq, hserved'.after_eq]
  exact {
    value := hserved.value_eq.trans hserved'.value_eq.symm
    lines := hserved.lines_eq.trans hserved'.lines_eq.symm
    grows := ⟨_, hserved.size_eq, hserved'.size_eq⟩
    matched := ⟨hchip, h.instruments, h.one_serves.later hundisturbed,
      h.other_serves.later hundisturbed'⟩
    one_leads := hleads _ (hlink.later hundisturbed)
    other_leads := hleads' _ (hlink'.later hundisturbed') }

/-- A new handle for the same instrument has the same number in both. -/
theorem addHandle (h : Matched one other) {link link' : Connection} (hlink : link.Leads one.state)
    (hlink' : link'.Leads other.state) (instrument : Instrument) :
    (one.addHandle ⟨link, instrument⟩).1 = (other.addHandle ⟨link', instrument⟩).1 ∧
      Matched (one.addHandle ⟨link, instrument⟩).2 (other.addHandle ⟨link', instrument⟩).2 := by
  have hsize : one.handles.size = other.handles.size := by
    rw [← size_instruments, ← size_instruments, h.instruments]
  refine ⟨?_, h.chip, ?_, h.one_serves.addHandle hlink, h.other_serves.addHandle hlink'⟩
  · rw [Session.addHandle, Session.addHandle, hsize]
  · rw [instruments_addHandle, instruments_addHandle, h.instruments]

/-! ## One step -/

/-- A conversation of a handle. -/
theorem alike_converse (h : Matched one other) (number : Nat) {link link' : Connection}
    (hlink : link.Leads one.state) (hlink' : link'.Leads other.state) (before : Instrument)
    {dialogue : Dialogue Bus.Call Bus.Answer α} (hbrief : dialogue.Asks Brief)
    (instrument : α → Instrument) (answer : α → Answer) :
    Alike one other (one.converse number ⟨link, before⟩ dialogue instrument answer)
      (other.converse number ⟨link', before⟩ dialogue instrument answer) := by
  have hagree := h.agree hlink hlink' hbrief
  refine ⟨?_, hagree.grows, hagree.matched.setHandle number ?_ ?_ ?_⟩
  · show Report.mk (answer (link.converse dialogue one.state).value) _ = Report.mk (answer _) _
    rw [hagree.value, hagree.lines]
  · exact congrArg (fun value => some (instrument value)) hagree.value
  · rintro _ ⟨⟩
    exact hagree.one_leads
  · rintro _ ⟨⟩
    exact hagree.other_leads

/-- Fitting connections out in the same way. -/
theorem alike_fit (h : Matched one other) {link link' : Connection} (hlink : link.Leads one.state)
    (hlink' : link'.Leads other.state) (fitting : Fitting) :
    Alike one other (one.fit link fitting) (other.fit link' fitting) := by
  cases fitting with
  | bare =>
    obtain ⟨hreport, hmatched⟩ := h.addHandle hlink hlink' .bare
    exact ⟨hreport, ⟨0, rfl, rfl⟩, hmatched⟩
  | registers =>
    obtain ⟨hreport, hmatched⟩ := h.addHandle hlink hlink' .registers
    exact ⟨hreport, ⟨0, rfl, rfl⟩, hmatched⟩
  | wiper model channel mode initial =>
    have hbrief := (Wiper.prompt_start model channel mode initial).asks brief_call
    have hagree := h.agree hlink hlink' hbrief
    unfold Session.fit
    simp only
    rw [← hagree.value, ← hagree.lines]
    cases (link.converse (Wiper.start model channel mode initial).run one.state).value with
    | error error => exact ⟨rfl, hagree.grows, hagree.matched⟩
    | ok wiper =>
      obtain ⟨hreport, hmatched⟩ :=
        hagree.matched.addHandle hagree.one_leads hagree.other_leads (.wiper wiper)
      refine ⟨?_, hagree.grows, hmatched⟩
      show Report.mk (Session.addHandle _ _).1.answer _ = Report.mk _ _
      rw [hreport]

/-- Making a new handle from an older one. -/
theorem alike_connect (h : Matched one other) (number : Nat) (fitting : Fitting) :
    Alike one other (one.connect (.handle number) fitting)
      (other.connect (.handle number) fitting) := by
  unfold Session.connect handle?
  simp only
  rcases h.handles_cases number with ⟨hone, hother⟩ | ⟨hone, hother⟩ |
    ⟨link, link', instrument, hone, hother⟩ <;> rw [hone, hother]
  · exact h.alike_same _
  · exact h.alike_same _
  · obtain ⟨hreport, hgrows, hmatched⟩ := (h.closeHandle number).alike_fit
      (h.one_serves number _ hone) (h.other_serves number _ hother) fitting
    exact ⟨hreport, hgrows, hmatched⟩

/-- Acting on a wiper. -/
theorem alike_actOnWiper (h : Matched one other) (number : Nat) {link link' : Connection}
    (hlink : link.Leads one.state) (hlink' : link'.Leads other.state) (wiper : Wiper)
    (action : WiperAction) :
    Alike one other (one.actOnWiper number ⟨link, .wiper wiper⟩ wiper action)
      (other.actOnWiper number ⟨link', .wiper wiper⟩ wiper action) := by
  cases action with
  | position | describe => exact h.alike_same _
  | perform operation =>
    exact h.alike_converse number hlink hlink' (.wiper wiper)
      ((Wiper.prompt_perform operation wiper).asks brief_call) (fun result => .wiper result.2)
      fun result => .ofWiper result.1

/-- Acting on a handle. -/
theorem alike_act (h : Matched one other) (number : Nat) {link link' : Connection}
    (hlink : link.Leads one.state) (hlink' : link'.Leads other.state) (instrument : Instrument)
    {request : Request} (hrequest : request.OfDriver) :
    Alike one other (one.act number ⟨link, instrument⟩ request)
      (other.act number ⟨link', instrument⟩ request) := by
  obtain ⟨action | action, operation, wiperAction, argumentsFirst⟩ := request
  · cases instrument with
    | bare => exact h.alike_same _
    | registers =>
      cases operation with
      | none => exact h.alike_same _
      | some operation =>
        exact h.alike_converse number hlink hlink' .registers
          ((Registers.prompt_perform operation).asks brief_call) (fun _ => .registers) .ofRegisters
    | wiper wiper =>
      cases wiperAction with
      | none => exact h.alike_same _
      | some wiperAction => exact h.alike_actOnWiper number hlink hlink' wiper wiperAction
  · rcases hrequest action rfl with rfl | rfl
    · refine ⟨rfl, ⟨0, rfl, rfl⟩, h.setHandle number rfl ?_ ?_⟩
      · rintro _ ⟨⟩
        exact hlink
      · rintro _ ⟨⟩
        exact hlink'
    · exact ⟨rfl, ⟨0, rfl, rfl⟩, h.closeHandle number⟩

/-- Setting a register behind the driver's back. -/
theorem alike_setRegister (h : Matched one other) (address : Fin 16) (value : UInt16) :
    Alike one other (one.perform (.setRegister address value))
      (other.perform (.setRegister address value)) := by
  have hundisturbed (session : Session) : Undisturbed session.state
      (session.perform (.setRegister address value)).2.state := ⟨rfl, _, _, rfl⟩
  refine ⟨rfl, ⟨0, rfl, rfl⟩, ?_, h.instruments, h.one_serves.later (hundisturbed one),
    h.other_serves.later (hundisturbed other)⟩
  exact congrArg (·.setRegister address value) h.chip

/-- **One step cannot tell matched sessions apart.** -/
theorem perform (h : Matched one other) {action : Action} (haction : action.OfDriver) :
    Alike one other (one.perform action) (other.perform action) := by
  cases haction with
  | malformed => exact h.alike_same _
  | connect number fitting => exact h.alike_connect number fitting
  | setRegister address value => exact h.alike_setRegister address value
  | registers =>
    unfold Session.perform
    rw [h.chip]
    exact h.alike_same _
  | onHandle number request hrequest =>
    unfold Session.perform
    simp only
    rcases h.handles_cases number with ⟨hone, hother⟩ | ⟨hone, hother⟩ |
      ⟨link, link', instrument, hone, hother⟩ <;> rw [hone, hother]
    · exact h.alike_same _
    · simp only
      split
      · exact h.alike_same _
      · exact h.alike_same _
    · exact h.alike_act number (h.one_serves number _ hone) (h.other_serves number _ hother)
        instrument hrequest

/-! ## Whole sessions -/

/-- The wiper of a handle is the same in both. -/
theorem wiper?_eq (h : Matched one other) (number : Nat) :
    one.wiper? number = other.wiper? number := by
  unfold Session.wiper? Session.handle?
  rcases h.handles_cases number with ⟨hone, hother⟩ | ⟨hone, hother⟩ |
    ⟨link, link', instrument, hone, hother⟩ <;> rw [hone, hother]
  cases instrument <;> rfl

/-- A step is recorded in the same way in both. -/
theorem record (h : Matched one other) {step : Step} (hstep : step.action.OfDriver) :
    (one.record step).1.seen = (other.record step).1.seen ∧
      Matched (one.record step).2 (other.record step).2 := by
  obtain ⟨hreport, ⟨count, hone, hother⟩, hmatched⟩ := h.perform hstep
  have hwiper : (one.record step).1.wiper = (other.record step).1.wiper := by
    unfold Session.record
    simp only
    rw [hreport]
    exact hmatched.wiper?_eq _
  have hcount : (one.record step).1.transcript.length =
      (other.record step).1.transcript.length := by
    unfold Session.record
    simp only [Array.length_toList, Array.size_extract]
    omega
  refine ⟨Prod.ext (congrArg Report.answer hreport) ?_, hmatched⟩
  exact Prod.ext (congrArg Report.lines hreport) (Prod.ext hwiper hcount)

/-- **No session can tell matched ones apart.** -/
theorem run (h : Matched one other) {steps : List Step}
    (hsteps : ∀ step ∈ steps, step.action.OfDriver) :
    (one.run steps).1.map Record.seen = (other.run steps).1.map Record.seen ∧
      Matched (one.run steps).2 (other.run steps).2 := by
  induction steps generalizing one other with
  | nil => exact ⟨rfl, h⟩
  | cons step rest ih =>
    obtain ⟨hstep, hrest⟩ := List.forall_mem_cons.1 hsteps
    obtain ⟨hseen, hmatched⟩ := h.record hstep
    obtain ⟨hseens, hfinal⟩ := ih hmatched hrest
    exact ⟨List.cons_eq_cons.2 ⟨hseen, hseens⟩, hfinal⟩

end Matched

/-! ## Where matched sessions come from -/

/-- A session that has just begun with one bare handle, over a connection that leads to a chip. -/
structure Opened (chip : Chip) (opened : Report × Session) : Prop where
  report : opened.1 = ⟨.opened 0, []⟩
  chip : opened.2.state.bus.chip = chip
  instruments : opened.2.instruments = #[some .bare]
  serves : opened.2.Serves

/-- A bare connection that leads to the chip opens a session without other handles. -/
theorem opened_fit {session : Session} {chip : Chip} (hnone : session.handles = #[])
    (hchip : session.state.bus.chip = chip) {link : Connection}
    (hlink : link.Leads session.state) : Opened chip (session.fit link .bare) := by
  have hserves : session.Serves := by
    intro number handle hhandle
    rw [hnone] at hhandle
    cases hhandle
  refine ⟨?_, hchip, ?_, hserves.addHandle hlink⟩
  · show Report.mk (.opened session.handles.size) [] = _
    rw [hnone]
    rfl
  · show (session.addHandle ⟨link, .bare⟩).2.instruments = _
    rw [instruments_addHandle, Session.instruments, hnone, Array.map_empty]
    rfl

/-- The slave address of a chip with pins is a byte. -/
theorem toNat_slaveAddress (pins : Pins) :
    pins.slaveAddress.toUInt8.toNat = pins.slaveAddress.toNat := by
  have hrange := pins.slaveAddress_range
  rw [UInt16.toNat_toUInt8]
  omega

/-- **Every source from which the chip is reached opens a session.** -/
theorem opened_connect {chip : Chip} {address : Option UInt16} {buses : List (String × UInt64)}
    {source : Source} (h : source.Reaches address buses) :
    Opened chip ((Session.start chip address buses).connect source .bare) := by
  have hlink (link : Connection) (hlink : link.Leads (Session.start chip address buses).state) :
      Opened chip ((Session.start chip address buses).fit link .bare) := opened_fit rfl rfl hlink
  have hslave (pins : Pins) (haddress : address.all (· = pins.slaveAddress) = true) :
      Answers pins.slaveAddress.toUInt8 (Session.start chip address buses).state.bus := by
    refine ⟨rfl, ?_⟩
    rw [toNat_slaveAddress]
    show address.all (·.toNat = pins.slaveAddress.toNat) = true
    cases address with
    | none => rfl
    | some address =>
      have heq : address = pins.slaveAddress := of_decide_eq_true haddress
      rw [heq]
      exact decide_eq_true rfl
  cases h with
  | direct => exact hlink .direct rfl
  | exclusive => exact hlink .exclusive rfl
  | shared => exact hlink .shared ⟨rfl, rfl⟩
  | transactional pins haddress => exact hlink (.transactional pins 0) (hslave pins haddress)
  | blocking pins haddress => exact hlink (.blocking pins 0) (hslave pins haddress)
  | slave bus pins name mask haddress hfile hmask =>
    show Opened chip (Session.fitDevice _ (Linux.Device.openSlave bus pins 0) .bare)
    have hanswers := (hslave pins haddress).2
    rw [toNat_slaveAddress] at hanswers
    have hopen := @chosen_openSlave (Session.start chip address buses).state.bus rfl bus name mask
      hfile hmask pins hanswers
    obtain ⟨device, hvalue, hchosen, hchip⟩ := hopen
    unfold Session.fitDevice
    simp only [hvalue]
    exact opened_fit rfl hchip hchosen

/-- Sessions that have just begun on one chip are matched. -/
theorem Opened.matched {chip : Chip} {one other : Report × Session} (h : Opened chip one)
    (h' : Opened chip other) : Matched one.2 other.2 :=
  ⟨h.chip.trans h'.chip.symm, h.instruments.trans h'.instruments.symm, h.serves, h'.serves⟩

end Session

/-- **The driver does not depend on the kind of bus.** Where no fault falls:

* over any two sources from which the chip is reached, the bus that leads to it alone, lent for
  exclusive use or in shared hands that are free, a bus of either kind with an interface of its own,
  or a device file with combined transfers whose slave is the chip, a bare connection is made in the
  same way, and the two sessions are then matched;
* whatever the driver is told to do with the handles of matched sessions, for however long, every
  step has the same answer, reports the same lines, leaves the same wiper and takes as many
  transactions, and at the end the chips are the same. What is true of all sequences of steps is
  true of every beginning of one, so the chips are the same at every step. -/
theorem transport_independence :
    (∀ (chip : Chip) (address : Option UInt16) (buses : List (String × UInt64))
      (source source' : Source), source.Reaches address buses → source'.Reaches address buses →
        let opened := (Session.start chip address buses).connect source .bare
        let opened' := (Session.start chip address buses).connect source' .bare
        opened.1 = opened'.1 ∧ opened.2.Matched opened'.2) ∧
    ∀ one other : Session, one.Matched other → ∀ steps : List Step,
      (∀ step ∈ steps, step.action.OfDriver) →
        (one.run steps).1.map Record.seen = (other.run steps).1.map Record.seen ∧
          (one.run steps).2.state.bus.chip = (other.run steps).2.state.bus.chip := by
  refine ⟨fun chip address buses source source' h h' => ?_, fun one other h steps hsteps => ?_⟩
  · have hone : Session.Opened chip _ := Session.opened_connect h
    have hother : Session.Opened chip _ := Session.opened_connect h'
    exact ⟨hone.report.trans hother.report.symm, hone.matched hother⟩
  · obtain ⟨hseen, hmatched⟩ := h.run hsteps
    exact ⟨hseen, hmatched.chip⟩

/-- Three steps up, over a bus that takes whole transactions and over a device file. -/
theorem transport_independence_of_steps :
    let pins : Pins := ⟨true, false, false⟩
    let begun := Session.start ⟨Chip.powerUp, 256⟩ (some pins.slaveAddress) [("1", 0x1)]
    let one := (begun.connect (.transactional pins) .bare).2
    let other := (begun.connect (.slave 1 pins) .bare).2
    let steps : List Step :=
      [⟨0, .connect (.handle 0) (.wiper .mcp4661 .b .volatileOnly 0)⟩,
        ⟨1, .onHandle 1 ⟨none, none, some (.perform (.increaseBy 3)), false⟩⟩]
    (one.run steps).1.map Record.seen = (other.run steps).1.map Record.seen ∧
      (one.run steps).2.state.bus.chip.register 1 = 3 ∧
        (other.run steps).2.state.bus.chip.register 1 = 3 := by
  intro pins begun one other steps
  obtain ⟨hsources, hsessions⟩ := transport_independence
  have hfile : ([("1", 0x1)] : List (String × UInt64)).find?
      (fun file => "/dev/i2c-" ++ file.1 = Linux.Device.path 1) = some ("1", 0x1) := by decide
  obtain ⟨-, hmatched⟩ := hsources ⟨Chip.powerUp, 256⟩ (some pins.slaveAddress) [("1", 0x1)]
    (.transactional pins) (.slave 1 pins) (.transactional pins (by decide))
    (.slave 1 pins "1" 0x1 (by decide) hfile (by decide))
  have hsteps : ∀ step ∈ steps, step.action.OfDriver := by
    have hdriver : Request.OfDriver ⟨none, none, some (.perform (.increaseBy 3)), false⟩ := by
      intro action h
      cases h
    simp only [steps, List.forall_mem_cons]
    exact ⟨.connect _ _, .onHandle _ _ hdriver, List.forall_mem_nil _⟩
  obtain ⟨hseen, hchip⟩ := hsessions one other hmatched steps hsteps
  have hthree : (one.run steps).2.state.bus.chip.register 1 = 3 := by decide +kernel
  exact ⟨hseen, hthree, hchip ▸ hthree⟩

end WiperDriver.Bench
