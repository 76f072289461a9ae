/-!
# Directions of a pulse

A pulse moves a wiper by one position. Counts of pulses are signed where callers give them, so a
direction can be reversed; `Direction.reverse_reverse` says that two reversals cancel.
-/

namespace WiperDriver

/-- The way in which a pulse moves a wiper. -/
inductive Direction where
  | up
  | down
  deriving DecidableEq, Repr, Inhabited

namespace Direction

/-- The opposite way. -/
def reverse : Direction → Direction
  | .up => .down
  | .down => .up

@[simp]
theorem reverse_reverse (direction : Direction) : direction.reverse.reverse = direction := by
  cases direction <;> rfl

/-- Upwards for a flag that is set. -/
def ofBool (up : Bool) : Direction :=
  if up then .up else .down

/-- The verb of a pulse in this direction. -/
def verb : Direction → String
  | .up => "increment"
  | .down => "decrement"

end Direction

end WiperDriver
