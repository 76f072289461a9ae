import WiperDriver.Model

/-!
# Slave addresses

The levels of the address pins A0 to A2 are the low three bits of the chip's 7-bit slave address,
behind a fixed upper part (`Pins.slaveAddress_range`). A pin that the package does not lead out is
tied high inside it, so a level asked for there has no effect.
-/

namespace WiperDriver

/-- The levels of the address pins. -/
structure Pins where
  a0 : Bool
  a1 : Bool
  a2 : Bool
  deriving DecidableEq, Repr, Inhabited

/-- The slave address that three pin levels make: `0101` and then A2, A1 and A0. -/
def Pins.slaveAddress (pins : Pins) : UInt16 :=
  (0x28 : UInt16) ||| (pins.a2.toUInt16 <<< 2) ||| (pins.a1.toUInt16 <<< 1) ||| pins.a0.toUInt16

/-- Every pin setting gives an address in the block of eight that the family owns. -/
theorem Pins.slaveAddress_range (pins : Pins) :
    0x28 ≤ pins.slaveAddress.toNat ∧ pins.slaveAddress.toNat ≤ 0x2F := by
  rcases pins with ⟨a0, a1, a2⟩
  cases a0 <;> cases a1 <;> cases a2 <;> decide

namespace Model

/-- The levels that the chip sees: what is asked for where the pin is led out, high elsewhere. -/
def effectivePins (model : Model) (pins : Pins) : Pins where
  a0 := decide (model.addressPins ≤ 0) || pins.a0
  a1 := decide (model.addressPins ≤ 1) || pins.a1
  a2 := decide (model.addressPins ≤ 2) || pins.a2

/-- The slave address of a chip for the given pin levels. -/
def slaveAddress (model : Model) (pins : Pins) : UInt16 :=
  (model.effectivePins pins).slaveAddress

end Model

end WiperDriver
