/-!
# Faults

A fault is a mistake of the program itself, in contrast to an error that a walk
may meet.  A walker that runs into one is lost together with its outcome.
-/

namespace TransitLoad

/-- What can go wrong inside the program. -/
inductive Fault where
  /-- The API under test broke down while it served a request. -/
  | brokenRequest (text : String)
  /-- A walker was asked to leave the end state. -/
  | pastTheEnd (walker : Nat)
  /-- An index was drawn below zero. -/
  | emptyChoice
  /-- A list was read beyond its end. -/
  | outOfBounds (length index : Nat)
  /-- A random part of a spread is no representable duration. -/
  | unrepresentableDelay
  /-- The sum of two durations is not representable. -/
  | delaySumOverflow
  /-- More slots were asked for than can be counted. -/
  | tooManySlots
  deriving DecidableEq, Inhabited

namespace Fault

/-- The text that a fault shows. -/
def message : Fault → String
  | .brokenRequest text => text
  | .pastTheEnd walker => s!"walker {walker} cannot transition out of the end state"
  | .emptyChoice => "cannot sample empty range"
  | .outOfBounds length index =>
      s!"index out of bounds: the len is {length} but the index is {index}"
  | .unrepresentableDelay =>
      "cannot convert float seconds to Duration: value is either too big or NaN"
  | .delaySumOverflow => "overflow when adding durations"
  | .tooManySlots =>
      "a semaphore may not have more than MAX_PERMITS permits (2305843009213693951)"

end Fault
end TransitLoad
