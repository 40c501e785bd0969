import TransitLoad.Proofs.RunLockstep
import TransitLoad.Proofs.StopConservation
import TransitLoad.Proofs.Termination

/-!
# Isolation of faults

A walker that is lost because the API breaks down takes nothing with it.  Before the
repaired API, which replies with a status of failure after the same latency, the test comes
to the same result, except that the walker is aborted by that reply, and that it leaves a
failure if it had asked for a stop.
-/

namespace TransitLoad

open Activity

/-- What is counted among lists in step, if every element is counted as the related one
or is one of some more. -/
theorem countP_eq_of_forall₂
    {first : List α}
    {second : List β}
    {property more : α → Bool}
    {property' : β → Bool}
    (related : List.Forall₂ relation first second)
    (counts : ∀ value ∈ first, ∀ value' ∈ second, relation value value' →
      (property' value').toNat = (property value).toNat + (more value).toNat) :
    second.countP property' = first.countP property + first.countP more := by
  induction related with
  | nil => rfl
  | @cons value value' values values' related _ hypothesis =>
      have rest := hypothesis fun other present other' present' =>
        counts other (List.mem_cons_of_mem _ present) other' (List.mem_cons_of_mem _ present')
      have here := counts value (List.mem_cons_self ..) value' (List.mem_cons_self ..) related
      have single (holds : Bool) : (if holds then 1 else 0) = holds.toNat := by
        cases holds <;> rfl
      rw [List.countP_cons, List.countP_cons, List.countP_cons, single, single, single]
      omega

/-! ## Lost walkers -/

/-- Whether the API broke down. -/
def Reply.isBroken : Reply → Bool
  | .broken _ => true
  | _ => false

/-- Whether a walker was lost at its request of a stop, the sixth one of a walk. -/
def EndedWalk.lostAtStop (journal : List Deed) (walk : EndedWalk) : Bool :=
  walk.result.toOption.isNone &&
    (exchanges ((timeline journal walk.walker).map Deed.event))[5]?.any
      fun exchange => exchange.2.reply.isBroken

/-- A walk that is lost is lost at its sixth request if it sends that many. -/
theorem Walker.brokeOff_at_stop_iff
    {itinerary : Itinerary}
    {walker : Walker}
    (representable : itinerary.pause.IsRepresentable)
    (yields : Yields (walker.walk itinerary) events (.error fault)) :
    ((exchanges events)[5]?.any fun exchange => exchange.2.reply.isBroken) = true ↔
      (exchanges events).length = 6 := by
  obtain ⟨ended, after, safe, concluded⟩ := exists_walkSafe representable yields
  have few : (exchanges events).length ≤ 6 := safe.few
  rcases ended with (error | fault') | ending
  · cases concluded
  · obtain ⟨earlier, url, elapsed, text, same⟩ := safe.faultless fault' rfl
    rw [same, List.length_append, List.length_singleton] at few ⊢
    constructor
    · intro broken
      by_contra fewer
      rw [List.getElem?_eq_none
        (by rw [List.length_append, List.length_singleton]; omega)] at broken
      cases broken
    · intro six
      have place : 5 = earlier.length := by omega
      rw [place, List.getElem?_concat_length]
      rfl
  · cases concluded

/-- A walk that is aborted by a request had chosen a stop if it was the sixth one. -/
theorem Walker.abortedAtStop_iff
    {itinerary : Itinerary}
    {walker : Walker}
    {outcome : WalkOutcome}
    (representable : itinerary.pause.IsRepresentable)
    (fresh : walker.selections = [])
    (yields : Yields (walker.walk itinerary) events (.ok outcome))
    (aborted : outcome.ending = .aborted (.fetch kind error)) :
    outcome.abortedAtStop = true ↔ (exchanges events).length = 6 := by
  obtain ⟨ended, after, safe, concluded⟩ := exists_walkSafe representable yields
  have failed := (walk_accounted representable fresh yields).2.2
  have counted : failures events = 1 ↔ outcome.abortedAtStop = true := by
    rw [failed]
    cases same : outcome.abortedAtStop <;> simp [Except.toOption, same]
  rw [← counted]
  rcases ended with (error | fault) | ending
  · exact absurd rfl (safe.settled error)
  · cases concluded
  · cases concluded
    cases (show ending = .aborted (.fetch kind error) from aborted)
    exact safe.missed kind error rfl

namespace RunState

section

variable {plan : RunPlan} {codes : Url → Nat} {state state' : RunState}
  {walk walk' : EndedWalk}

/-- Nobody is lost before the repaired API. -/
theorem Chronicle.exists_outcome
    (chronicle : Chronicle (plan.repaired codes) state journal)
    (present : walk ∈ state.ended) :
    ∃ outcome, walk.result = .ok outcome := by
  have sound := not_brokeDown (plan.api.reply_repaired_ne_broken codes)
    (chronicle.answered_timeline walk.walker)
  obtain ⟨outcome, same, _⟩ := Walker.exists_outcome plan.settings.actionPause_isRepresentable
    rfl (chronicle.ended walk present).yields sound
  exact ⟨outcome, same⟩

/-- A walker fails at a stop before the repaired API if it does so before the other one or
is lost there. -/
theorem Chronicle.abortedAtStop_eq
    (chronicle : Chronicle plan state journal)
    (chronicle' : Chronicle (plan.repaired codes) state' journal')
    (fixed : plan.api.IsFixed)
    (present : walk ∈ state.ended)
    (present' : walk' ∈ state'.ended)
    (walks : EndedWalk.Lockstep plan.api codes walk walk') :
    (walk'.result.toOption.any WalkOutcome.abortedAtStop).toNat =
      (walk.result.toOption.any WalkOutcome.abortedAtStop).toNat +
        (walk.lostAtStop journal).toNat := by
  have representable := plan.settings.actionPause_isRepresentable
  have yields := (chronicle.ended walk present).yields
  have yields' : Yields (plan.walkOf walk'.walker)
      ((timeline journal' walk'.walker).map Deed.event) walk'.result :=
    (chronicle'.ended walk' present').yields
  have lockstep : Activity.Lockstep plan.api codes (SharesFate plan.api codes)
      (plan.walkOf walk.walker) (plan.walkOf walk.walker) :=
    Walker.walk_lockstep representable _
  rw [walks.walker] at yields'
  have requests := congrArg List.length
    (lockstep.requests_eq fixed yields (chronicle.answered_timeline walk.walker) yields'
      (chronicle'.answered_timeline walk.walker))
  rw [List.length_map, List.length_map] at requests
  have unfailing := chronicle'.exists_outcome present'
  have fate := walks.fate
  generalize walk'.result = result' at yields' unfailing fate ⊢
  unfold EndedWalk.lostAtStop
  generalize walk.result = result at yields fate ⊢
  cases fate with
  | same =>
      obtain ⟨outcome, rfl⟩ := unfailing
      rfl
  | lost fault aborts =>
      -- Both walks sent as many requests, and only with the sixth is a failure noted.
      obtain ⟨error, aborted, kind, url, text, rfl, _⟩ := aborts
      have failed := Walker.abortedAtStop_iff representable rfl yields' aborted
      have broken := Walker.brokeOff_at_stop_iff representable yields
      rw [requests, ← broken, ← Bool.eq_iff_iff] at failed
      simp only [Except.toOption, Option.any_some, Option.any_none, Option.isNone_none,
        Bool.true_and, Bool.toNat_false, Nat.zero_add, failed]

/-- A walker is completed before the repaired API if and only if it is so before the other
one. -/
theorem completed_eq (walks : EndedWalk.Lockstep api codes walk walk') :
    walk'.result.toOption.any (fun outcome => outcome.ending = .completed) =
      walk.result.toOption.any fun outcome => outcome.ending = .completed := by
  have fate := walks.fate
  generalize walk'.result = result' at fate ⊢
  generalize walk.result = result at fate ⊢
  cases fate with
  | same => rfl
  | lost fault aborts =>
      obtain ⟨error, aborted, _⟩ := aborts
      simp [Except.toOption, aborted]

/-! ## Statistics -/

theorem WellKept.sampled_eq
    {state : RunState}
    (wellKept : WellKept plan state journal) :
    samples (journal.map Deed.event) = sampled state.notes := by
  rw [samples, ← wellKept.chronicle.walkNotes_eq, sampled_notes]

/-- Two tests that are over report the same labels if they have the same samples. -/
theorem WellKept.labels_eq
    {other : RunPlan}
    (wellKept : WellKept plan state journal)
    (wellKept' : WellKept other state' journal')
    (stopped : state.isOver = true)
    (stopped' : state'.isOver = true)
    (same : sampled state'.notes = sampled state.notes) :
    state'.summary.stats.labels = state.summary.stats.labels := by
  have labels := Collector.labels_report (wellKept.shelves_collected stopped)
  have labels' := Collector.labels_report (wellKept'.shelves_collected stopped')
  rw [wellKept.sampled_eq] at labels
  rw [wellKept'.sampled_eq, same, ← labels] at labels'
  exact labels'

end

end RunState

/-- A walker ends in two tests at the same time and in the same outcome, unless it is lost
in the first one; then it is aborted in the second one by a reply that has been repaired. -/
structure EndedWalk.Isolated
    (api : Api)
    (codes : Url → Nat)
    (walk walk' : EndedWalk) : Prop where
  walker : walk'.walker = walk.walker
  startedAt : walk'.startedAt = walk.startedAt
  endedAt : walk'.endedAt = walk.endedAt
  kept : ∀ outcome, walk.result = .ok outcome → walk'.result = .ok outcome
  lost_iff : (∃ fault, walk.result = .error fault) ↔
    ∃ outcome, walk'.result = .ok outcome ∧ outcome.AbortsAtRepair api codes
  survives : ∃ outcome, walk'.result = .ok outcome

theorem EndedWalk.Lockstep.isolated
    {walk walk' : EndedWalk}
    (walks : EndedWalk.Lockstep api codes walk walk')
    (survives : ∃ outcome, walk'.result = .ok outcome) :
    EndedWalk.Isolated api codes walk walk' := by
  obtain ⟨walker, startedAt, endedAt, fate⟩ := walks
  refine ⟨walker, startedAt, endedAt, ?_, ?_, survives⟩
  all_goals
    generalize walk'.result = result' at fate survives ⊢
    generalize walk.result = result at fate ⊢
  · intro outcome ended
    cases fate with
    | same => exact ended
    | lost => cases ended
  · cases fate with
    | same elsewhere =>
        obtain ⟨outcome, rfl⟩ := survives
        refine iff_of_false ?_ ?_
        · rintro ⟨fault, ⟨⟩⟩
        · rintro ⟨other, same, aborts⟩
          exact elsewhere other same aborts
    | lost fault aborts => exact iff_of_true ⟨fault, rfl⟩ ⟨_, rfl, aborts⟩

theorem isolated_of_forall₂
    {walks walks' : List EndedWalk}
    (related : List.Forall₂ (EndedWalk.Lockstep api codes) walks walks')
    (survive : ∀ walk' ∈ walks', ∃ outcome, walk'.result = .ok outcome) :
    List.Forall₂ (EndedWalk.Isolated api codes) walks walks' := by
  induction related with
  | nil => exact .nil
  | cons related _ hypothesis =>
      exact .cons (related.isolated (survive _ (List.mem_cons_self ..)))
        (hypothesis fun walk' present => survive walk' (List.mem_cons_of_mem _ present))

/-! ## Tests -/

namespace RunPlan

open RunState

/-- Two tests that differ only in what becomes of lost walkers: the first before some API,
the second before the repaired one. -/
structure IsolatesFaults
    (plan : RunPlan)
    (codes : Url → Nat)
    (state state' : RunState) : Prop where
  spawned : state'.summary.spawned = state.summary.spawned
  peak : state'.summary.peakConcurrency = state.summary.peakConcurrency
  now : state'.now = state.now
  elapsed : state'.summary.elapsedMilliseconds = state.summary.elapsedMilliseconds
  everyWalker : ∀ walker, walker < state.summary.spawned ↔
    walker ∈ state.ended.map EndedWalk.walker
  ended : List.Forall₂ (EndedWalk.Isolated plan.api codes) state.ended state'.ended
  samples : sampled state'.notes = sampled state.notes
  labels : state'.summary.stats.labels = state.summary.stats.labels
  completed : state'.summary.completed = state.summary.completed
  failures : state'.summary.stats.failures = state.summary.stats.failures +
    UInt64.ofNat (state.ended.countP (EndedWalk.lostAtStop (plan.journal plan.stepBound)))
  exactFailures : state.summary.spawned < UInt64.size →
    state'.summary.stats.failures.toNat = state.summary.stats.failures.toNat +
      state.ended.countP (EndedWalk.lostAtStop (plan.journal plan.stepBound))

/-- Both tests are in lockstep at every step. -/
theorem lockstep_after
    {plan : RunPlan}
    (fixed : plan.api.IsFixed)
    (codes : Url → Nat)
    (steps : Nat) :
    Lockstep plan.api codes (plan.after steps) ((plan.repaired codes).after steps) := by
  have start : Lockstep plan.api codes plan.outset (plan.repaired codes).outset :=
    .intro .nil .nil rfl
  exact start.complete fixed steps

/-- The number of failures, before it is cut to 64 bits. -/
theorem abortedAtStop_add
    {plan : RunPlan}
    (fixed : plan.api.IsFixed)
    (codes : Url → Nat)
    (steps : Nat) :
    ((plan.repaired codes).after steps).summary.outcomes.countP WalkOutcome.abortedAtStop =
      (plan.after steps).summary.outcomes.countP WalkOutcome.abortedAtStop +
        (plan.after steps).ended.countP (EndedWalk.lostAtStop (plan.journal steps)) := by
  have chronicle := (plan.wellKept_after steps).chronicle
  have chronicle' := ((plan.repaired codes).wellKept_after steps).chronicle
  rw [countP_outcomes, countP_outcomes]
  refine countP_eq_of_forall₂ (lockstep_after fixed codes steps).ended_lockstep ?_
  intro walk present walk' present' walks
  exact chronicle.abortedAtStop_eq chronicle' fixed present present' walks

/-- Both tests complete as many walks. -/
theorem completed_after
    {plan : RunPlan}
    (fixed : plan.api.IsFixed)
    (codes : Url → Nat)
    (steps : Nat) :
    ((plan.repaired codes).after steps).summary.completed =
      (plan.after steps).summary.completed := by
  have ended := (lockstep_after fixed codes steps).ended_lockstep
  have completed := congrArg (List.countP id)
    (map_eq_of_forall₂ ended fun _ _ walks => completed_eq walks)
  rw [List.countP_map, List.countP_map] at completed
  exact (countP_outcomes _ _).trans (completed.trans (countP_outcomes _ _).symm)

/-- The failures of a test are no more than its walkers, so that they are counted exactly
unless there are too many walkers to be counted. -/
theorem toNat_failures
    {plan : RunPlan}
    (stopped : (plan.after steps).isOver = true)
    (countable : (plan.after steps).spawned < UInt64.size) :
    (plan.after steps).summary.stats.failures.toNat =
      (plan.after steps).summary.outcomes.countP WalkOutcome.abortedAtStop := by
  have wellKept := plan.wellKept_after steps
  have walkers := wellKept.enrolled.count_eq
  have few : (plan.after steps).summary.outcomes.countP WalkOutcome.abortedAtStop ≤
      (plan.after steps).ended.length := by
    rw [countP_outcomes]
    exact List.countP_le_length
  have reported : (plan.after steps).summary.stats.failures = _ :=
    wellKept.failures_report stopped
  rw [reported]
  exact UInt64.toNat_ofNat_of_lt' (by omega)

/-- What two tests have in common when the first one is over. -/
theorem isolatesFaults_after
    {plan : RunPlan}
    (fixed : plan.api.IsFixed)
    (codes : Url → Nat)
    (stopped : (plan.after plan.stepBound).isOver = true) :
    plan.IsolatesFaults codes (plan.after plan.stepBound)
      ((plan.repaired codes).after plan.stepBound) := by
  have lockstep := lockstep_after fixed codes plan.stepBound
  have wellKept := plan.wellKept_after plan.stepBound
  have wellKept' := (plan.repaired codes).wellKept_after plan.stepBound
  have stopped' := lockstep.isOver_eq.trans stopped
  have added := abortedAtStop_add fixed codes plan.stepBound
  have sameCourse := lockstep.course_eq
  constructor
  · exact sameCourse.1
  · exact congrArg Admission.peak sameCourse.2.2
  · exact sameCourse.2.1
  · exact congrArg (min · (UInt64.size - 1)) sameCourse.2.1
  · intro walker
    rw [(wellKept.perm_ended stopped).mem_iff, List.mem_range]
    rfl
  · refine isolated_of_forall₂ lockstep.ended_lockstep ?_
    intro walk' present'
    exact wellKept'.chronicle.exists_outcome present'
  · exact lockstep.samples_eq
  · exact wellKept.labels_eq wellKept' stopped stopped' lockstep.samples_eq
  · exact completed_after fixed codes plan.stepBound
  · have reported : (plan.after plan.stepBound).summary.stats.failures = _ :=
      wellKept.failures_report stopped
    have reported' : ((plan.repaired codes).after plan.stepBound).summary.stats.failures = _ :=
      wellKept'.failures_report stopped'
    rw [reported', reported, added, UInt64.ofNat_add]
  · intro countable
    rw [toNat_failures stopped' (sameCourse.1.trans_lt countable),
      toNat_failures stopped countable, added]

/-- Faults are isolated.  Where an API that answers by the URL alone breaks down, let it
reply with a status of failure after the same latency instead.  Then the test is over at
the same time, with as many walkers started, each at the same time, as many slots in use at
most, and the same samples in the same order.  A walker that was not lost ends as before,
and those that were lost are the ones that are aborted by a reply that has been repaired.
The failures increase by the number of walkers that were lost at their request of a stop. -/
theorem faults_isolated
    {plan : RunPlan}
    (valid : plan.settings.validate = .ok ())
    (delayed : 1 ≤ plan.settings.minSpawnDelay.toNat)
    (fixed : plan.api.IsFixed)
    (codes : Url → Nat) :
    ∃ state state', plan.finalState = .ok state ∧
      (plan.repaired codes).finalState = .ok state' ∧
      plan.IsolatesFaults codes state state' := by
  have isValid := plan.settings.validate_eq_ok.mp valid
  obtain ⟨state, ends⟩ := exists_finalState isValid delayed
  obtain ⟨state', ends'⟩ : ∃ state, (plan.repaired codes).finalState = .ok state :=
    exists_finalState isValid delayed
  refine ⟨state, state', ends, ends', ?_⟩
  obtain ⟨_, rfl, stopped⟩ := isOver_of_finalState ends
  obtain ⟨_, rfl, _⟩ := isOver_of_finalState ends'
  exact isolatesFaults_after fixed codes stopped

/-- A test whose only walker is lost at its request of a stop. -/
def lostWalker : RunPlan where
  settings := { oneWalker.settings with
    minActionPause := 0
    maxActionPause := 0 }
  api := oneStop (.broken "connection reset")
  order := id

/-- The walker of `lostWalker` is lost, and leaves a failure before the repaired API. -/
theorem faults_isolated_lostWalker :
    lostWalker.settings.validate = .ok () ∧
      1 ≤ lostWalker.settings.minSpawnDelay.toNat ∧
      lostWalker.api.IsFixed ∧
      (lostWalker.after 20).isOver = true ∧
      (lostWalker.after 20).summary.panicked = 1 ∧
      (lostWalker.after 20).summary.stats.failures = 0 ∧
      ((lostWalker.repaired fun _ => 500).after 20).summary.stats.failures = 1 ∧
      ∃ state state', lostWalker.finalState = .ok state ∧
        (lostWalker.repaired fun _ => 500).finalState = .ok state' ∧
        lostWalker.IsolatesFaults (fun _ => 500) state state' := by
  have fixed : lostWalker.api.IsFixed := fun _ _ _ => rfl
  -- One evaluation for each of the two tests.
  have lost : (lostWalker.after 20).isOver = true ∧
      (lostWalker.after 20).summary.panicked = 1 ∧
      (lostWalker.after 20).summary.stats.failures = 0 := by decide +kernel
  have aborted : ((lostWalker.repaired fun _ => 500).after 20).summary.stats.failures = 1 := by
    decide +kernel
  exact ⟨rfl, by decide, fixed, lost.1, lost.2.1, lost.2.2, aborted,
    faults_isolated rfl (by decide) fixed fun _ => 500⟩

end RunPlan
end TransitLoad
