/-!
# Target registers of a wiper change

A wiper position lives in a volatile register, which is the actual position, and on chips with
EEPROM also in a non-volatile one, which is loaded at power-up. The mode says which of the two a
change is written to.
-/

namespace WiperDriver

/-- The registers that a new wiper position is written to. -/
inductive Mode where
  | volatileOnly
  | nonVolatileOnly
  | volatileAndNonVolatile
  deriving DecidableEq, Repr, Inhabited

namespace Mode

/-- Every mode. -/
def all : List Mode :=
  [.volatileOnly, .nonVolatileOnly, .volatileAndNonVolatile]

/-- The identifier of a mode. -/
def name : Mode → String
  | .volatileOnly => "VolatileOnly"
  | .nonVolatileOnly => "NonVolatileOnly"
  | .volatileAndNonVolatile => "VolatileAndNonVolatile"

/-- The mode of an identifier; case matters. -/
def ofName? (text : String) : Option Mode :=
  all.find? (·.name = text)

/-- The mode as log lines write it. -/
def text : Mode → String
  | .volatileOnly => "volatile only"
  | .nonVolatileOnly => "non-volatile only"
  | .volatileAndNonVolatile => "volatile and non-volatile"

end Mode

end WiperDriver
