import WiperDriver.Bus.Blocking
import WiperDriver.Bus.Lent
import WiperDriver.Bus.Shared
import WiperDriver.Bus.Transactional
import WiperDriver.Proofs.Dialogue.Relays

/-!
# Bus interfaces

The adapters for buses that take whole transactions and for buses with two blocking calls make one
call of the bus for each transaction of the driver, with the same bytes, and pass its outcome on:
`Transactional.Conveys` and `Blocking.Conveys` list what there is for each. Neither bus has a way to
fill a buffer in part, so a reading over them always counts what was asked for (`Fills`), and that
stays so when the bus is lent or shared (`Interfaced.fills`).
-/

namespace WiperDriver.Bus

variable {σ α : Type}

/-! ## Buses that take whole transactions -/

namespace Transactional

/-- What an error of the bus is to the driver: the sort of error decides the kind of the failure,
and its description stands in the text. -/
inductive Told : BusError → Failure → Prop
  | bus (description : String) :
    Told ⟨.bus, description⟩ ⟨.invalidData, "I2C error: " ++ description⟩
  | overrun (description : String) :
    Told ⟨.overrun, description⟩ ⟨.invalidData, "I2C error: " ++ description⟩
  | arbitrationLoss (description : String) :
    Told ⟨.arbitrationLoss, description⟩ ⟨.wouldBlock, "I2C error: " ++ description⟩
  | noAcknowledge (source : Source) (description : String) :
    Told ⟨.noAcknowledge source, description⟩ ⟨.notConnected, "I2C error: " ++ description⟩
  | other (description : String) :
    Told ⟨.other, description⟩ ⟨.other, "I2C error: " ++ description⟩

theorem told_failure (error : BusError) : Told error error.failure := by
  obtain ⟨kind, description⟩ := error
  cases kind with
  | bus => exact .bus description
  | arbitrationLoss => exact .arbitrationLoss description
  | noAcknowledge source => exact .noAcknowledge source description
  | overrun => exact .overrun description
  | other => exact .other description

/-- A transaction of the driver and the one of the bus by which it is carried out with a slave. -/
inductive Conveys (slave : UInt8) :
    (call : Bus.Call) × Bus.Answer call → (call : Call) × Answer call → Prop
  | written (bytes data : List UInt8) :
    Conveys slave ⟨.write bytes, .ok ()⟩ ⟨⟨slave, [.write bytes]⟩, .ok data⟩
  | unwritten (bytes : List UInt8) {error : BusError} {failure : Failure} (h : Told error failure) :
    Conveys slave ⟨.write bytes, .error failure⟩ ⟨⟨slave, [.write bytes]⟩, .error error⟩
  /-- The whole buffer is reported. -/
  | read (bytes : List UInt8) (length : Nat) (data : List UInt8) :
    Conveys slave ⟨.writeRead bytes length, .ok ⟨length, data⟩⟩
      ⟨⟨slave, [.write bytes, .read length]⟩, .ok data⟩
  | unread (bytes : List UInt8) (length : Nat) {error : BusError} {failure : Failure}
    (h : Told error failure) :
    Conveys slave ⟨.writeRead bytes length, .error failure⟩
      ⟨⟨slave, [.write bytes, .read length]⟩, .error error⟩

theorem adapter_write (pins : Pins) (bytes : List UInt8) :
    adapter pins (.write bytes) = .ask ⟨pins.slaveAddress.toUInt8, [.write bytes]⟩ fun answer =>
      .done ((Except.mapError BusError.failure answer).map fun _ => ()) :=
  rfl

theorem adapter_writeRead (pins : Pins) (bytes : List UInt8) (length : Nat) :
    adapter pins (.writeRead bytes length) =
      .ask ⟨pins.slaveAddress.toUInt8, [.write bytes, .read length]⟩ fun answer =>
        .done ((Except.mapError BusError.failure answer).map fun data => ⟨length, data⟩) :=
  rfl

/-- **Every transaction of the driver is one of the bus.** -/
theorem conveyed (pins : Pins) (responder : WiperDriver.Responder Call Answer σ)
    (dialogue : Dialogue Bus.Call Bus.Answer α) (state : σ) :
    Conveyed (Conveys pins.slaveAddress.toUInt8)
      (dialogue.run (responder.through (adapter pins)) state)
      ((dialogue.adapt (adapter pins)).run responder state) := by
  refine Dialogue.conveyed_adapt (fun call state => ?_) dialogue state
  cases call with
  | write bytes =>
    rw [adapter_write, Dialogue.run_ask]
    obtain ⟨error | data, after⟩ := responder ⟨pins.slaveAddress.toUInt8, [.write bytes]⟩ state
    · exact ⟨_, rfl, .unwritten bytes (told_failure error)⟩
    · exact ⟨_, rfl, .written bytes data⟩
  | writeRead bytes length =>
    rw [adapter_writeRead, Dialogue.run_ask]
    obtain ⟨error | data, after⟩ :=
      responder ⟨pins.slaveAddress.toUInt8, [.write bytes, .read length]⟩ state
    · exact ⟨_, rfl, .unread bytes length (told_failure error)⟩
    · exact ⟨_, rfl, .read bytes length data⟩

end Transactional

/-! ## Buses with two blocking calls -/

namespace Blocking

/-- A transaction of the driver and the call by which it is carried out with a slave. All that is
known of an error is its description. -/
inductive Conveys (slave : UInt8) :
    (call : Bus.Call) × Bus.Answer call → (call : Call) × Answer call → Prop
  | written (bytes : List UInt8) :
    Conveys slave ⟨.write bytes, .ok ()⟩ ⟨.write slave bytes, .ok ()⟩
  | unwritten (bytes : List UInt8) (description : String) :
    Conveys slave ⟨.write bytes, .error ⟨.other, "I2C error: " ++ description⟩⟩
      ⟨.write slave bytes, .error description⟩
  /-- The whole buffer is reported. -/
  | read (bytes : List UInt8) (length : Nat) (data : List UInt8) :
    Conveys slave ⟨.writeRead bytes length, .ok ⟨length, data⟩⟩
      ⟨.writeRead slave bytes length, .ok data⟩
  | unread (bytes : List UInt8) (length : Nat) (description : String) :
    Conveys slave ⟨.writeRead bytes length, .error ⟨.other, "I2C error: " ++ description⟩⟩
      ⟨.writeRead slave bytes length, .error description⟩

theorem adapter_write (pins : Pins) (bytes : List UInt8) :
    adapter pins (.write bytes) = .ask (.write pins.slaveAddress.toUInt8 bytes) fun answer =>
      .done (Except.mapError failure answer) :=
  rfl

theorem adapter_writeRead (pins : Pins) (bytes : List UInt8) (length : Nat) :
    adapter pins (.writeRead bytes length) =
      .ask (.writeRead pins.slaveAddress.toUInt8 bytes length) fun answer =>
        .done ((Except.mapError failure answer).map fun data => ⟨length, data⟩) :=
  rfl

/-- **Every transaction of the driver is one call of the bus.** -/
theorem conveyed (pins : Pins) (responder : WiperDriver.Responder Call Answer σ)
    (dialogue : Dialogue Bus.Call Bus.Answer α) (state : σ) :
    Conveyed (Conveys pins.slaveAddress.toUInt8)
      (dialogue.run (responder.through (adapter pins)) state)
      ((dialogue.adapt (adapter pins)).run responder state) := by
  refine Dialogue.conveyed_adapt (fun call state => ?_) dialogue state
  cases call with
  | write bytes =>
    rw [adapter_write, Dialogue.run_ask]
    obtain ⟨description | ⟨⟨⟩⟩, after⟩ := responder (.write pins.slaveAddress.toUInt8 bytes) state
    · exact ⟨_, rfl, .unwritten bytes description⟩
    · exact ⟨_, rfl, .written bytes⟩
  | writeRead bytes length =>
    rw [adapter_writeRead, Dialogue.run_ask]
    obtain ⟨description | data, after⟩ :=
      responder (.writeRead pins.slaveAddress.toUInt8 bytes length) state
    · exact ⟨_, rfl, .unread bytes length description⟩
    · exact ⟨_, rfl, .read bytes length data⟩

end Blocking

/-! ## Readings are whole -/

/-- A bus on which every reading counts as many bytes as were asked for. -/
def Fills (responder : Responder σ) : Prop :=
  ∀ bytes length state reading, (responder (.writeRead bytes length) state).1 = .ok reading →
    reading.count = length

/-- The buses that the driver reaches over one of the two interfaces: directly, lent for exclusive
use, or in shared hands, and these in any order. -/
inductive Interfaced : {σ : Type} → Responder σ → Prop
  | transactional {σ : Type} (pins : Pins)
    (responder : WiperDriver.Responder Transactional.Call Transactional.Answer σ) :
    Interfaced (responder.through (Transactional.adapter pins))
  | blocking {σ : Type} (pins : Pins)
    (responder : WiperDriver.Responder Blocking.Call Blocking.Answer σ) :
    Interfaced (responder.through (Blocking.adapter pins))
  | lent {σ : Type} {responder : Responder σ} (h : Interfaced responder) :
    Interfaced (responder.through lent)
  | shared {σ : Type} {responder : Responder σ} (h : Interfaced responder) :
    Interfaced (Shared.respond responder)

/-- **Over the two interfaces no reading is short.** -/
theorem Interfaced.fills {responder : Responder σ} (h : Interfaced responder) :
    Fills responder := by
  induction h with
  | transactional pins responder =>
    intro bytes length state reading hreading
    rw [Responder.through, Transactional.adapter_writeRead, Dialogue.run_ask] at hreading
    generalize responder _ state = answered at hreading
    obtain ⟨error | data, after⟩ := answered
    · cases hreading
    · cases hreading
      rfl
  | blocking pins responder =>
    intro bytes length state reading hreading
    rw [Responder.through, Blocking.adapter_writeRead, Dialogue.run_ask] at hreading
    generalize responder _ state = answered at hreading
    obtain ⟨description | data, after⟩ := answered
    · cases hreading
    · cases hreading
      rfl
  | lent _ ih =>
    rw [through_lent]
    exact ih
  | @shared σ responder _ ih =>
    intro bytes length shared reading hreading
    cases hheld : shared.held with
    | true =>
      rw [Shared.respond_held responder _ hheld] at hreading
      cases hreading
    | false =>
      rw [Shared.respond_free responder _ hheld] at hreading
      exact ih bytes length shared.bus reading hreading

end WiperDriver.Bus
