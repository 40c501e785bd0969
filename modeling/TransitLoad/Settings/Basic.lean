import TransitLoad.DelayRange
import TransitLoad.Settings.Flag

/-!
# Settings

What a test is to do: where, for how long, how many walkers at once, with which
delays and from which seed.  A test only starts with settings that are valid.
-/

namespace TransitLoad

/-- The settings of a test. -/
structure Settings where
  baseUrl : Url
  durationSeconds : UInt64
  maxConcurrency : UInt64
  minSpawnDelay : UInt64
  maxSpawnDelay : UInt64
  minActionPause : UInt64
  maxActionPause : UInt64
  seed : UInt64
  requestTimeout : UInt64
  tickInterval : UInt64
  output : Option String
  deriving DecidableEq

namespace Settings

/-! ## Defaults -/

/-- The API that is tested when none is given. -/
def defaultBaseUrlText : String := "https://demo.transiter.dev"

/-- The settings of a test when nothing is given. -/
def defaults : Settings where
  baseUrl := ⟨"https", some ⟨"", none, .name "demo.transiter.dev", none⟩, "/", none, none⟩
  durationSeconds := 50
  maxConcurrency := 50
  minSpawnDelay := 50
  maxSpawnDelay := 50
  minActionPause := 500
  maxActionPause := 500
  seed := 303
  requestTimeout := 10000
  tickInterval := 1000
  output := none

/-- The text of a default, for those settings that have one. -/
def defaultText? : Flag → Option String
  | .baseUrl => some defaultBaseUrlText
  | .duration => some (toString defaults.durationSeconds)
  | .maxConcurrency => some (toString defaults.maxConcurrency)
  | .minSpawnDelay => some (toString defaults.minSpawnDelay)
  | .maxSpawnDelay => some (toString defaults.maxSpawnDelay)
  | .minActionPause => some (toString defaults.minActionPause)
  | .maxActionPause => some (toString defaults.maxActionPause)
  | .seed => some (toString defaults.seed)
  | .requestTimeout => some (toString defaults.requestTimeout)
  | .tickInterval => some (toString defaults.tickInterval)
  | .output => none

/-! ## Derived values -/

/-- How long walkers are started. -/
def duration (settings : Settings) : Duration :=
  .ofSeconds settings.durationSeconds.toNat

/-- The delay before each start of a walker. -/
def spawnDelay (settings : Settings) : DelayRange :=
  .ofMilliseconds settings.minSpawnDelay.toNat settings.maxSpawnDelay.toNat

/-- The pause of a walker between its steps. -/
def actionPause (settings : Settings) : DelayRange :=
  .ofMilliseconds settings.minActionPause.toNat settings.maxActionPause.toNat

/-- How long a request may take. -/
def requestTimeoutDuration (settings : Settings) : Duration :=
  .ofMilliseconds settings.requestTimeout.toNat

/-- The time between two reports on the slots in use. -/
def tickIntervalDuration (settings : Settings) : Duration :=
  .ofMilliseconds settings.tickInterval.toNat

end Settings

/-! ## Validity -/

/-- What makes settings unusable. -/
inductive SettingsError where
  | zeroConcurrency
  | concurrencyTooHigh (requested limit : Nat)
  | zeroDuration
  | durationTooLong (seconds : Nat)
  | zeroTickInterval
  | invertedRange (name : String) (lower upper : Nat)
  deriving DecidableEq

/-- The text that a settings error shows. -/
def SettingsError.message : SettingsError → String
  | .zeroConcurrency => "max concurrency must be at least 1"
  | .concurrencyTooHigh requested limit =>
      s!"max concurrency {requested} exceeds the limit of {limit}"
  | .zeroDuration => "test duration must be at least 1 second"
  | .durationTooLong seconds => s!"test duration of {seconds}s cannot be scheduled"
  | .zeroTickInterval => "tick interval must be at least 1 millisecond"
  | .invertedRange name lower upper =>
      s!"{name} range is inverted: min {lower}ms > max {upper}ms"

namespace Settings

/-- The largest number of slots that can be counted. -/
def concurrencyLimit : Nat := 2305843009213693951

/-- Moments this many seconds from now cannot be represented. -/
def clockReach : Nat := 9223372036854775808

/-- Check that a range is not inverted. -/
def checkRange (name : String) (lower upper : Nat) : Except SettingsError Unit :=
  if upper < lower then .error (.invertedRange name lower upper) else .ok ()

/-- Check settings; the first problem counts. -/
def validate (settings : Settings) : Except SettingsError Unit := do
  let concurrency := settings.maxConcurrency.toNat
  let seconds := settings.durationSeconds.toNat
  if concurrency = 0 then throw .zeroConcurrency
  if concurrencyLimit < concurrency then throw (.concurrencyTooHigh concurrency concurrencyLimit)
  if seconds = 0 then throw .zeroDuration
  if clockReach ≤ seconds then throw (.durationTooLong seconds)
  if settings.tickInterval.toNat = 0 then throw .zeroTickInterval
  checkRange "spawn delay" settings.minSpawnDelay.toNat settings.maxSpawnDelay.toNat
  checkRange "action pause" settings.minActionPause.toNat settings.maxActionPause.toNat

end Settings
end TransitLoad
