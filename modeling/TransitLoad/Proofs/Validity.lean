import TransitLoad.Proofs.Reports
import TransitLoad.Proofs.Termination
import TransitLoad.Proofs.WalkerAccounts

/-!
# Valid settings are all that a test needs

What a test is built on may fail: slots that cannot be counted, a ticker without an
interval, a deadline beyond the clock, a delay that is no duration, a difference below
zero, a report that cannot be made.  A test whose settings are refused does not even
begin.  A test whose settings are valid goes through states in none of which anything of
this can fail, whatever the API replies and in whatever order the walkers act.
-/

namespace TransitLoad

namespace RunPlan

/-- The states that a test goes through, also in the midst of its steps. -/
inductive Reaches (plan : RunPlan) : RunState → Prop where
  /-- It begins once its settings are found valid and its slots are opened. -/
  | begins
      (valid : plan.settings.validate = .ok ())
      (opens : Admission.open? plan.settings.maxConcurrency.toNat plan.deadline =
        .ok admission) :
      Reaches plan (.initial plan admission)
  /-- It goes on step by step until it is over. -/
  | goesOn
      (reached : Reaches plan state)
      (running : state.isOver = false) :
      Reaches plan (state.step plan)
  /-- In a step, the driver and the walkers do one thing after another. -/
  | acts
      (reached : Reaches plan state)
      (action : Action plan state deeds state') :
      Reaches plan state'

/-- Carry out a test for at most so many steps, and sum it up. -/
def runWithin (plan : RunPlan) (steps : Nat) : Except RunFailure RunSummary :=
  (plan.finalStateWithin steps).map RunState.summary

/-- A test with other replies and another order of its walkers. -/
def withApi (plan : RunPlan) (api : Api) (order : Nat → Nat) : RunPlan :=
  { plan with api, order }

end RunPlan

/-! ## Failures -/

/-- What a test may fail for at one of its states. -/
inductive FailurePoint (plan : RunPlan) (state : RunState) : Prop where
  /-- There are more slots than can be counted. -/
  | tooManySlots (beyond : Admission.largestCapacity < state.admission.capacity)
  /-- There is no time between two ticks. -/
  | noTickInterval (none : plan.settings.tickIntervalDuration = .zero)
  /-- The deadline is no moment of the clock. -/
  | unreachableDeadline (beyond : Settings.clockReach * 1000 ≤ state.admission.deadline)
  /-- More slots are free than there are. -/
  | negativeInUse (more : state.admission.capacity < state.admission.available)
  /-- A delay before the start of a walker is no duration. -/
  | spawnDelay
      (generator : Generator)
      (fails : (plan.settings.spawnDelay.sample.from? generator).1 = .error fault)
  /-- A pause of a walker is no duration. -/
  | actionPause
      (generator : Generator)
      (fails : (plan.itinerary.pause.sample.from? generator).1 = .error fault)
  /-- The driver ran into a fault. -/
  | driver (fails : state.phase = .broken fault)
  /-- A walker was lost to another fault than one of the API. -/
  | walker
      (present : walk ∈ state.ended)
      (fails : walk.result = .error fault)
      (own : ∀ text, fault ≠ .brokenRequest text)
  /-- More walks are completed than have an outcome. -/
  | negativeAborted (more : state.summary.outcomes.length < state.summary.completed)
  /-- The latencies recorded so far cannot be reported on. -/
  | report (fails : state.collected.report? .latencies = .error error)

namespace RunState

/-- A walker is lost to faults of the API only. -/
theorem Chronicle.fault_of_ended
    {state : RunState}
    {walk : EndedWalk}
    (chronicle : Chronicle plan state journal)
    (present : walk ∈ state.ended)
    (fails : walk.result = .error fault) :
    ∃ text, fault = .brokenRequest text := by
  have yields := (chronicle.ended walk present).yields
  rw [fails] at yields
  obtain ⟨_, _, text, broken⟩ :=
    Walker.brokeDown_of_lost plan.settings.actionPause_isRepresentable yields
  exact ⟨text, Except.error.inj (Walker.result_of_broken yields broken)⟩

/-- No more slots are free than there are. -/
theorem Accounted.available_le
    {state : RunState}
    (accounted : Accounted plan state) :
    state.admission.available ≤ state.admission.capacity := by
  have total := accounted.unheld_eq
  rw [Admission.unheld] at total
  omega

/-- A step of a test is well kept. -/
theorem WellKept.exists_step
    {state : RunState}
    (wellKept : WellKept plan state journal) :
    ∃ journal', WellKept plan (state.step plan) journal' := by
  by_cases canAct : state.CanAct
  · exact ⟨_, Turn.keeps (fun wellKept action => wellKept.act action)
      (step_turn canAct plan) wellKept⟩
  · rw [(step_of_not_canAct canAct plan).1]
    exact ⟨journal, wellKept.advance canAct⟩

/-- Nothing fails at a well kept state of a test whose settings are valid. -/
theorem WellKept.no_failurePoint
    {state : RunState}
    (wellKept : WellKept plan state journal)
    (valid : plan.settings.IsValid) :
    ¬FailurePoint plan state := by
  have accounted := wellKept.accounted
  intro failure
  cases failure with
  | tooManySlots beyond =>
      rw [accounted.capacity_eq] at beyond
      exact absurd valid.concurrency_le beyond.not_ge
  | noTickInterval none =>
      have interval := congrArg Duration.nanoseconds none
      have positive := valid.tick_pos
      simp only [Settings.tickIntervalDuration, Duration.ofMilliseconds, Duration.zero]
        at interval
      omega
  | unreachableDeadline beyond =>
      have within := valid.seconds_lt
      rw [accounted.deadline_eq, RunPlan.deadline] at beyond
      omega
  | negativeInUse more => exact absurd accounted.available_le more.not_ge
  | spawnDelay generator fails =>
      rw [DelayRange.sample_eq_drawn plan.settings.spawnDelay_isRepresentable] at fails
      cases fails
  | actionPause generator fails =>
      have representable : plan.itinerary.pause.IsRepresentable :=
        plan.settings.actionPause_isRepresentable
      rw [DelayRange.sample_eq_drawn representable] at fails
      cases fails
  | driver fails => exact wellKept.intact _ fails
  | walker present fails own =>
      obtain ⟨text, same⟩ := wellKept.chronicle.fault_of_ended present fails
      exact own text same
  | negativeAborted more =>
      have few : state.summary.completed ≤ state.summary.outcomes.length :=
        List.countP_le_length
      exact absurd few more.not_ge
  | report fails =>
      rw [Collector.report?_latencies] at fails
      cases fails

end RunState

namespace RunPlan

open RunState

/-! ## Tests with valid settings -/

/-- Every point of a test is reached. -/
theorem reaches_after
    {plan : RunPlan}
    (valid : plan.settings.validate = .ok ())
    (steps : Nat) :
    plan.Reaches (plan.after steps) := by
  induction steps with
  | zero => exact .begins valid (open?_eq (plan.settings.validate_eq_ok.mp valid))
  | succ steps hypothesis =>
      rw [after_succ]
      split_ifs with stopped
      · exact hypothesis
      · exact .goesOn hypothesis (by simpa using stopped)

/-- Whatever is reached is well kept, and only with valid settings is anything reached. -/
theorem Reaches.exists_wellKept
    {plan : RunPlan}
    (reached : plan.Reaches state) :
    plan.settings.IsValid ∧ ∃ journal, WellKept plan state journal := by
  induction reached with
  | begins validated opens =>
      have valid := plan.settings.validate_eq_ok.mp validated
      rw [open?_eq valid] at opens
      cases opens
      exact ⟨valid, [], .outset plan⟩
  | goesOn _ _ hypothesis =>
      obtain ⟨valid, journal, wellKept⟩ := hypothesis
      exact ⟨valid, wellKept.exists_step⟩
  | acts _ action hypothesis =>
      obtain ⟨valid, journal, wellKept⟩ := hypothesis
      exact ⟨valid, _, wellKept.act action⟩

/-- The result of a test with valid settings is its summary, unless it is not over after
the steps that it is given. -/
theorem runWithin_eq
    {plan : RunPlan}
    (valid : plan.settings.IsValid)
    (steps : Nat) :
    plan.runWithin steps =
      if (plan.after steps).isOver then .ok (plan.after steps).summary
      else .error .endless := by
  rw [runWithin, finalStateWithin_eq valid]
  split_ifs <;> rfl

/-- A test whose settings are refused is refused for the same reason, whatever the API
does: it does not even begin. -/
structure IsRefused (plan : RunPlan) (error : SettingsError) : Prop where
  unreached : ∀ state, ¬plan.Reaches state
  run_eq : ∀ api order, (plan.withApi api order).run = .error (.invalidSettings error)

/-- A test that cannot fail: at none of its states, for any number of steps, is there a
failure, and if it is over, the driver has finished and no walker is under way.  Whenever
it is over, however many steps that takes, its result is a summary. -/
structure CannotFail (plan : RunPlan) : Prop where
  reached : ∀ steps, plan.Reaches (plan.after steps)
  sound : ∀ state, plan.Reaches state → ¬FailurePoint plan state
  finished : ∀ state, plan.Reaches state → state.isOver = true →
    state.phase = .finished ∧ state.active = []
  results : ∀ steps, (plan.after steps).isOver = true → ∀ later ≥ steps,
    plan.runWithin later = .ok (plan.after steps).summary
  run_eq : plan.run =
    if (plan.after plan.stepBound).isOver then .ok (plan.after plan.stepBound).summary
    else .error .endless
  ends : 1 ≤ plan.settings.minSpawnDelay.toNat → ∃ summary, plan.run = .ok summary

/-- Validity is exactly what a test needs.  If the settings are refused, the test is
refused, and neither is a request sent nor a walker started.  If they are valid, the test
cannot fail.  Settings are refused for nothing but the bounds of `IsValid`. -/
theorem validity_decides (plan : RunPlan) :
    (∀ error, plan.settings.validate = .error error → plan.IsRefused error) ∧
      (plan.settings.validate = .ok () → plan.CannotFail) ∧
      (plan.settings.validate = .ok () ↔ plan.settings.IsValid) := by
  refine ⟨?_, ?_, plan.settings.validate_eq_ok⟩
  · intro error invalid
    constructor
    · intro state reached
      have validated := plan.settings.validate_eq_ok.mpr reached.exists_wellKept.1
      rw [invalid] at validated
      cases validated
    · intro api order
      have refused : (plan.withApi api order).settings.validate = .error error := invalid
      simp only [run, finalState, finalStateWithin, refused]
      rfl
  · intro validated
    have valid := plan.settings.validate_eq_ok.mp validated
    refine ⟨reaches_after validated, ?_, ?_, ?_, runWithin_eq valid _, ?_⟩
    · intro state reached
      obtain ⟨_, _, wellKept⟩ := reached.exists_wellKept
      exact wellKept.no_failurePoint valid
    · intro state reached stopped
      obtain ⟨_, _, wellKept⟩ := reached.exists_wellKept
      exact wellKept.finished stopped
    · intro steps stopped later le
      rw [runWithin_eq valid, after_of_isOver stopped le, if_pos stopped]
    · intro delayed
      obtain ⟨state, ends⟩ := exists_finalState valid delayed
      exact ⟨state.summary, by rw [run, ends]; rfl⟩

/-- The test of `oneWalker` with more slots than can be counted. -/
def tooManySlots : RunPlan where
  settings := { oneWalker.settings with maxConcurrency := 18446744073709551615 }
  api := oneWalker.api
  order := oneWalker.order

/-- The test of `oneWalker` cannot fail and has a summary; with more slots than can be
counted it is refused. -/
theorem validity_decides_oneWalker :
    oneWalker.settings.validate = .ok () ∧
      oneWalker.CannotFail ∧
      (∃ summary, oneWalker.run = .ok summary) ∧
      tooManySlots.settings.validate = .error
        (.concurrencyTooHigh 18446744073709551615 2305843009213693951) ∧
      tooManySlots.IsRefused
        (.concurrencyTooHigh 18446744073709551615 2305843009213693951) := by
  have cannotFail := (validity_decides oneWalker).2.1 rfl
  have refused : tooManySlots.settings.validate = .error
      (.concurrencyTooHigh 18446744073709551615 2305843009213693951) := rfl
  exact ⟨rfl, cannotFail, cannotFail.ends (by decide), refused,
    (validity_decides tooManySlots).1 _ refused⟩

end RunPlan
end TransitLoad
