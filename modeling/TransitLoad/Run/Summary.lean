import TransitLoad.Run.State

/-!
# The result of a test

How many walkers were started and how they ended, how many slots were in use at
most, how long the test took, and what its statistics say.
-/

namespace TransitLoad

/-- The result of a test. -/
structure RunSummary where
  spawned : Nat
  completed : Nat
  aborted : Nat
  panicked : Nat
  maxConcurrency : Nat
  peakConcurrency : Nat
  elapsedMilliseconds : Nat
  stats : StatsReport
  /-- The outcomes in the order of the walkers, without those lost to a fault. -/
  outcomes : List WalkOutcome
  deriving DecidableEq

namespace RunState

/-- The walks that ended, in the order in which they were started. -/
def endedInOrder (state : RunState) : List EndedWalk :=
  state.ended.mergeSort fun left right => left.walker ≤ right.walker

/-- What was recorded in the course of a test. -/
def collected (state : RunState) : Collector :=
  state.notes.foldl
    (fun collector note => match note with
      | .walk note => collector.take note
      | _ => collector)
    .empty

/-- The result of a test that is over. -/
def summary (state : RunState) : RunSummary :=
  let outcomes := state.endedInOrder.filterMap fun walk => walk.result.toOption
  let completed := outcomes.countP fun outcome => outcome.ending = .completed
  { spawned := state.spawned
    completed
    aborted := outcomes.length - completed
    panicked := state.ended.countP fun walk => walk.result.toOption.isNone
    maxConcurrency := state.admission.capacity
    peakConcurrency := state.admission.peak
    elapsedMilliseconds := min state.now (UInt64.size - 1)
    stats := state.collected.report
    outcomes }

end RunState

/-- Why a test has no result. -/
inductive RunFailure where
  /-- The settings are refused. -/
  | invalidSettings (error : SettingsError)
  /-- The driver ran into a fault. -/
  | broken (fault : Fault)
  /-- The test does not come to an end. -/
  | endless
  deriving DecidableEq

/-- The parts of the text that a failure shows, the general one first. -/
def RunFailure.messages : RunFailure → List String
  | .invalidSettings error => ["Invalid configuration", error.message]
  | .broken fault => [fault.message]
  | .endless => ["Test does not end"]

namespace RunPlan

/-- More steps than a test takes whose walkers, or whose delays, take time: every
walker takes a few, every millisecond with a tick as many, and no more walkers are
started in a millisecond than there are slots. -/
def stepBound (plan : RunPlan) : Nat :=
  64 * (plan.settings.maxConcurrency.toNat + 1) *
    (plan.deadline + plan.settings.maxSpawnDelay.toNat + 2)

/-- Carry out a test for at most so many steps. -/
def finalStateWithin (plan : RunPlan) (steps : Nat) : Except RunFailure RunState :=
  match plan.settings.validate with
  | .error error => .error (.invalidSettings error)
  | .ok () =>
      match Admission.open? plan.settings.maxConcurrency.toNat plan.deadline with
      | .error fault => .error (.broken fault)
      | .ok admission =>
          let state := (RunState.initial plan admission).complete plan steps
          match state.phase with
          | .broken fault => .error (.broken fault)
          | _ => if state.isOver then .ok state else .error .endless

/-- Carry out a test. -/
def finalState (plan : RunPlan) : Except RunFailure RunState :=
  plan.finalStateWithin plan.stepBound

/-- Carry out a test and sum it up. -/
def run (plan : RunPlan) : Except RunFailure RunSummary :=
  plan.finalState.map RunState.summary

end RunPlan
end TransitLoad
