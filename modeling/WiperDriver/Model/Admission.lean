import WiperDriver.Error
import WiperDriver.Mode
import WiperDriver.Model

/-!
# What a model admits

The refusals that follow from the chip model alone: a channel it does not carry, and anything that
needs EEPROM on a chip without. `checkMode_eq_ok_iff` puts the second in one line: a mode is admitted
if it keeps to the volatile register or the chip has EEPROM.
-/

namespace WiperDriver.Model

/-- Refuses a channel that the chip does not carry. -/
def checkChannel (model : Model) (channel : Channel) : Except Error Unit :=
  if model.hasChannel channel then .ok () else .error (.unsupportedChannel channel)

/-- Refuses EEPROM on a chip without. -/
def checkEeprom (model : Model) : Except Error Unit :=
  if model.hasEeprom then .ok () else .error .nonVolatileNotSupported

/-- Refuses a mode that needs EEPROM on a chip without. -/
def checkMode (model : Model) (mode : Mode) : Except Error Unit :=
  if mode = .volatileOnly then .ok () else model.checkEeprom

theorem checkChannel_eq_ok_iff {model : Model} {channel : Channel} :
    model.checkChannel channel = .ok () ↔ model.hasChannel channel = true := by
  unfold checkChannel
  split <;> simp_all

theorem checkEeprom_eq_ok_iff {model : Model} :
    model.checkEeprom = .ok () ↔ model.hasEeprom = true := by
  unfold checkEeprom
  split <;> simp_all

theorem checkMode_eq_ok_iff {model : Model} {mode : Mode} :
    model.checkMode mode = .ok () ↔ mode = .volatileOnly ∨ model.hasEeprom = true := by
  unfold checkMode
  split
  · next h => simp [h]
  · next h => simp [h, checkEeprom_eq_ok_iff]

end WiperDriver.Model
