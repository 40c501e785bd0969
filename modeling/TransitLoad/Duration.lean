import TransitLoad.Binary64

/-!
# Durations

A duration is a whole number of nanoseconds.  The clock of a test only stands at
whole milliseconds, so a wait of some duration ends at the first millisecond that
is not too early.  No wait is longer than thirty years.
-/

namespace TransitLoad

/-- A length of time in nanoseconds. -/
structure Duration where
  nanoseconds : Nat
  deriving DecidableEq, Inhabited

namespace Duration

/-- Durations of `2 ^ 64` seconds and more cannot be represented. -/
def limit : Nat := UInt64.size * 1000000000

/-- No time at all. -/
def zero : Duration := ⟨0⟩

/-- So many seconds and nanoseconds. -/
def ofParts (seconds nanoseconds : Nat) : Duration :=
  ⟨1000000000 * seconds + nanoseconds⟩

/-- So many seconds. -/
def ofSeconds (seconds : Nat) : Duration :=
  ⟨1000000000 * seconds⟩

/-- So many milliseconds. -/
def ofMilliseconds (milliseconds : Nat) : Duration :=
  ⟨1000000 * milliseconds⟩

/-- The whole seconds of a duration. -/
def wholeSeconds (duration : Duration) : Nat :=
  duration.nanoseconds / 1000000000

/-- The nanoseconds beyond the whole seconds. -/
def subsecondNanoseconds (duration : Duration) : Nat :=
  duration.nanoseconds % 1000000000

/-- The whole microseconds of a duration. -/
def wholeMicroseconds (duration : Duration) : Nat :=
  duration.nanoseconds / 1000

/-- The longest wait in milliseconds of the clock: thirty years of 365 days. -/
def longestWait : Nat := 946080000000

/-- How many milliseconds of the clock a wait takes: the duration rounded up, or the
longest wait if that is shorter. -/
def waitMilliseconds (duration : Duration) : Nat :=
  min longestWait ((999999 + duration.nanoseconds) / 1000000)

/-- The sum of two durations, if it can be represented. -/
def add? (left right : Duration) : Option Duration :=
  let sum := left.nanoseconds + right.nanoseconds
  if sum < limit then some ⟨sum⟩ else none

/-- How much longer the first duration is; none at all if it is shorter. -/
def excess (longer shorter : Duration) : Duration :=
  ⟨longer.nanoseconds - shorter.nanoseconds⟩

/-- The duration in seconds: the whole seconds and the rest of it, each rounded,
and their sum rounded once more. -/
def toSeconds (duration : Duration) : Binary64 :=
  .ofNat duration.wholeSeconds +
    .ofNat duration.subsecondNanoseconds / .ofNat 1000000000

/-- The duration in milliseconds. -/
def toMilliseconds (duration : Duration) : Binary64 :=
  duration.toSeconds * .ofNat 1000

/-- So many seconds, rounded to the nearest nanosecond and a tie to the even one,
if the duration can be represented. -/
def ofFractionalSeconds? (seconds : Binary64) : Option Duration :=
  let nanoseconds := roundQuotient (seconds.units * 1000000000) Binary64.unitsPerOne
  if seconds.isFinite && nanoseconds < limit then some ⟨nanoseconds⟩ else none

end Duration
end TransitLoad
