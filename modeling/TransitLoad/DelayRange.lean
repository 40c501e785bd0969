import TransitLoad.Random
import TransitLoad.Duration

/-!
# Random delays

A delay is drawn from a range by taking a random fraction of its spread.  A range
without spread gives its lower end and draws nothing.
-/

namespace TransitLoad

/-- The range that a delay is drawn from. -/
structure DelayRange where
  lower : Duration
  upper : Duration
  deriving DecidableEq, Inhabited

namespace DelayRange

/-- The range of no delay. -/
def zero : DelayRange := ⟨.zero, .zero⟩

/-- The range between two numbers of milliseconds. -/
def ofMilliseconds (lower upper : Nat) : DelayRange :=
  ⟨.ofMilliseconds lower, .ofMilliseconds upper⟩

/-- How far the range reaches beyond its lower end. -/
def spread (range : DelayRange) : Duration :=
  range.upper.excess range.lower

/-- The delay at a fraction of the range. -/
def atFraction (range : DelayRange) (fraction : Binary64) : Except Fault Duration :=
  match Duration.ofFractionalSeconds? (fraction * range.spread.toSeconds) with
  | none => .error .unrepresentableDelay
  | some part =>
      match range.lower.add? part with
      | none => .error .delaySumOverflow
      | some delay => .ok delay

/-- Draw a delay. -/
def sample (range : DelayRange) : Draw Duration :=
  if range.spread = .zero then pure range.lower
  else do
    let fraction ← Draw.fraction
    range.atFraction fraction

end DelayRange
end TransitLoad
