/-!
# Wiper channels

A chip of the family carries one, two or four wipers. Channels `A` and `B` share one terminal
control register and channels `C` and `D` the other; within a pair the first channel owns the low
nibble and the second the high one. `Channel.terminalMask` is the nibble, and
`Channel.side` tells the two members of a pair apart, which is all the wiper locks depend on.
-/

namespace WiperDriver

/-- A wiper of the chip. -/
inductive Channel where
  | a
  | b
  | c
  | d
  deriving DecidableEq, Repr, Inhabited

namespace Channel

/-- Every channel, in register order. -/
def all : List Channel :=
  [.a, .b, .c, .d]

/-- The letter of a channel. -/
def name : Channel → String
  | .a => "A"
  | .b => "B"
  | .c => "C"
  | .d => "D"

/-- The channel of a letter; case matters. -/
def ofName? (text : String) : Option Channel :=
  all.find? (·.name = text)

/-! ## Register layout -/

/-- The register that holds the wiper position. -/
def volatileAddress : Channel → UInt8
  | .a => 0x00
  | .b => 0x01
  | .c => 0x06
  | .d => 0x07

/-- The EEPROM register that is copied into the wiper position at power-up. -/
def nonVolatileAddress : Channel → UInt8
  | .a => 0x02
  | .b => 0x03
  | .c => 0x08
  | .d => 0x09

/-- The terminal control register, which the channel shares with its sibling. -/
def terminalAddress : Channel → UInt8
  | .a | .b => 0x04
  | .c | .d => 0x0A

/-- The register that holds the wiper position, or its EEPROM copy. -/
def wiperAddress (channel : Channel) (nonVolatile : Bool) : UInt8 :=
  if nonVolatile then channel.nonVolatileAddress else channel.volatileAddress

/-- The bit that connects the channel to its resistor network at all. -/
def enableBit : Channel → UInt16
  | .a | .c => 0x08
  | .b | .d => 0x80

/-- The bit that connects terminal A. -/
def terminalABit : Channel → UInt16
  | .a | .c => 0x04
  | .b | .d => 0x40

/-- The bit that connects the wiper terminal. -/
def terminalWBit : Channel → UInt16
  | .a | .c => 0x02
  | .b | .d => 0x20

/-- The bit that connects terminal B. -/
def terminalBBit : Channel → UInt16
  | .a | .c => 0x01
  | .b | .d => 0x10

/-- The four bits of the terminal control register that belong to the channel. -/
def terminalMask (channel : Channel) : UInt16 :=
  channel.enableBit ||| channel.terminalABit ||| channel.terminalWBit ||| channel.terminalBBit

/-- A side of a channel pair. The wiper lock flags follow the sides: one flag for `A` and `C`, one
for `B` and `D`. -/
inductive Side where
  | even
  | odd
  deriving DecidableEq, Repr, Inhabited

/-- The side of its pair on which a channel sits. -/
def side : Channel → Side
  | .a | .c => .even
  | .b | .d => .odd

end Channel

/-! ## Registers that belong to no channel -/

/-- The register with the lock, protection and EEPROM activity flags. -/
def statusAddress : UInt8 := 0x05

/-- The address whose pulses switch EEPROM write protection. -/
def protectionAddress : UInt8 := 0x0F

end WiperDriver
