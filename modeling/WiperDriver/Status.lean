import WiperDriver.Error

/-!
# The STATUS word

The chip reports whether an EEPROM write is under way, whether the EEPROM is write-protected, and
two wiper locks, one for each side of a channel pair. The five bits above them are reserved and
always read as ones: a word that shows a zero there comes from another chip or from a broken
transfer, and is refused.
-/

namespace WiperDriver

/-- What the chip reports about itself. -/
structure Status where
  writeActive : Bool
  writeProtected : Bool
  lockEven : Bool
  lockOdd : Bool
  deriving DecidableEq, Repr, Inhabited

namespace Status

/-- The reserved bits, which read as ones. -/
def reserved : UInt16 :=
  0x1F0

/-- Reads a STATUS word, and refuses it if a reserved bit is missing. -/
def ofWord (word : UInt16) : Except Error Status :=
  if word &&& reserved = reserved then
    .ok {
      writeActive := word &&& 0x8 != 0
      writeProtected := word &&& 0x1 != 0
      lockEven := word &&& 0x2 != 0
      lockOdd := word &&& 0x4 != 0 }
  else
    .error (.invalidStatus word)

/-- Whether the wiper lock that covers a channel is set. -/
def isLocked (status : Status) (channel : Channel) : Bool :=
  match channel.side with
  | .even => status.lockEven
  | .odd => status.lockOdd

end Status

/-- What the chip reports about itself, as seen from one channel. -/
structure ChannelStatus where
  channel : Channel
  writeActive : Bool
  writeProtected : Bool
  locked : Bool
  deriving DecidableEq, Repr, Inhabited

/-- The part of a status that concerns one channel. -/
def Status.forChannel (status : Status) (channel : Channel) : ChannelStatus where
  channel := channel
  writeActive := status.writeActive
  writeProtected := status.writeProtected
  locked := status.isLocked channel

end WiperDriver
