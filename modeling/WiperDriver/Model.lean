import WiperDriver.Channel

/-!
# Chip models

The constant properties of each chip of the family. A 7-bit chip has 129 wiper positions, 0 to 128,
and an 8-bit chip 257, 0 to 256; `Model.maxValue` is the highest of them, and no model has more
positions than a register can hold (`Model.maxValue_le`).
-/

namespace WiperDriver

/-- A chip of the family. -/
inductive Model where
  | mcp4532
  | mcp4541
  | mcp4542
  | mcp4551
  | mcp4632
  | mcp4641
  | mcp4642
  | mcp4651
  | mcp4661
  | mcp4461
  deriving DecidableEq, Repr, Inhabited

namespace Model

/-- Every model. -/
def all : List Model :=
  [.mcp4532, .mcp4541, .mcp4542, .mcp4551, .mcp4632, .mcp4641, .mcp4642, .mcp4651, .mcp4661,
    .mcp4461]

/-- The maker's name of a model. -/
def name : Model → String
  | .mcp4532 => "MCP4532"
  | .mcp4541 => "MCP4541"
  | .mcp4542 => "MCP4542"
  | .mcp4551 => "MCP4551"
  | .mcp4632 => "MCP4632"
  | .mcp4641 => "MCP4641"
  | .mcp4642 => "MCP4642"
  | .mcp4651 => "MCP4651"
  | .mcp4661 => "MCP4661"
  | .mcp4461 => "MCP4461"

/-- The model of a maker's name; case matters. -/
def ofName? (text : String) : Option Model :=
  all.find? (·.name = text)

/-- The highest wiper position. -/
def maxValue : Model → UInt16
  | .mcp4532 | .mcp4541 | .mcp4542 | .mcp4632 | .mcp4641 | .mcp4642 => 128
  | .mcp4551 | .mcp4651 | .mcp4661 | .mcp4461 => 256

/-- Every position of every model fits a 9-bit register. -/
theorem maxValue_le (model : Model) : model.maxValue.toNat ≤ 256 := by
  cases model <;> decide

/-- Whether the chip stores its wipers in EEPROM. -/
def hasEeprom : Model → Bool
  | .mcp4532 | .mcp4551 | .mcp4632 | .mcp4651 => false
  | .mcp4541 | .mcp4542 | .mcp4641 | .mcp4642 | .mcp4661 | .mcp4461 => true

/-- Whether the chip is a rheostat, which leads no terminal A out. -/
def isRheostat : Model → Bool
  | .mcp4532 | .mcp4542 | .mcp4632 | .mcp4642 => true
  | .mcp4541 | .mcp4551 | .mcp4641 | .mcp4651 | .mcp4661 | .mcp4461 => false

/-- The channels that the chip carries, in register order. -/
def channels : Model → List Channel
  | .mcp4532 | .mcp4541 | .mcp4542 | .mcp4551 => [.a]
  | .mcp4632 | .mcp4641 | .mcp4642 | .mcp4651 | .mcp4661 => [.a, .b]
  | .mcp4461 => [.a, .b, .c, .d]

/-- Whether the chip carries a channel. -/
def hasChannel (model : Model) (channel : Channel) : Bool :=
  model.channels.contains channel

/-- How many of the address pins A0, A1 and A2 the package leads out, counted from A0. -/
def addressPins : Model → Nat
  | .mcp4541 | .mcp4551 | .mcp4461 => 1
  | .mcp4532 | .mcp4542 | .mcp4632 | .mcp4642 => 2
  | .mcp4641 | .mcp4651 | .mcp4661 => 3

/-- A one-line description of the chip. -/
def text (model : Model) : String :=
  model.name ++ " (" ++ toString model.channels.length ++ " channel "
    ++ (if model.isRheostat then "rheostat" else "potentiometer") ++ ", "
    ++ toString model.maxValue.toNat ++ " steps"
    ++ (if model.hasEeprom then ", non-volatile" else "") ++ ")"

end Model

end WiperDriver
