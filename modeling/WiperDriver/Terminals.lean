import WiperDriver.Channel

/-!
# Terminal settings

Each channel owns four bits of a terminal control register: one connects the channel at all, three
connect its terminals A, W and B. A setting is merged into the register word without touching the
bits of the sibling channel or the general call bit above both nibbles. `Terminals.ofWord` reads a
setting out of a word and `Terminals.applyTo` merges it in.
-/

namespace WiperDriver

/-- Sets or clears all the bits of a mask. -/
def assign (word mask : UInt16) (on : Bool) : UInt16 :=
  if on then word ||| mask else word &&& ~~~mask

/-- Which parts of a channel are connected. A channel that is not enabled is shut down whatever its
terminals say. -/
structure Terminals where
  channel : Channel
  enabled : Bool
  a : Bool
  w : Bool
  b : Bool
  deriving DecidableEq, Repr, Inhabited

namespace Terminals

/-- The setting of a channel in a terminal control word. -/
def ofWord (channel : Channel) (word : UInt16) : Terminals where
  channel := channel
  enabled := word &&& channel.enableBit != 0
  a := word &&& channel.terminalABit != 0
  w := word &&& channel.terminalWBit != 0
  b := word &&& channel.terminalBBit != 0

/-- A terminal control word with the setting merged in. -/
def applyTo (terminals : Terminals) (word : UInt16) : UInt16 :=
  let channel := terminals.channel
  let word := assign word channel.enableBit terminals.enabled
  let word := assign word channel.terminalABit terminals.a
  let word := assign word channel.terminalWBit terminals.w
  assign word channel.terminalBBit terminals.b

/-- A setting in one line. -/
def text (terminals : Terminals) : String :=
  "channel " ++ terminals.channel.name ++ ": enabled=" ++ toString terminals.enabled
    ++ " A=" ++ toString terminals.a ++ " W=" ++ toString terminals.w
    ++ " B=" ++ toString terminals.b

end Terminals

end WiperDriver
