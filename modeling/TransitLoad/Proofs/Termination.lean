import Mathlib.Algebra.Group.Action.Defs
import Mathlib.Algebra.Order.BigOperators.Group.List
import Mathlib.Algebra.Order.Group.Nat
import TransitLoad.Proofs.Steps
import TransitLoad.Proofs.Timelines

/-!
# A test comes to an end

Every action makes progress: it brings a tick or a walker nearer to its end.  There is
only so much progress to make before the deadline, as long as every walker is started
later than the one before it, and no walk waits more than sixteen times.  The clock
moves on only to let somebody act, so the steps of a test are bounded by its progress.
-/

namespace TransitLoad

open Activity

/-! ## Waiting -/

/-- Events that take time are not all notes. -/
theorem Activity.Event.countP_pos_of_span_pos
    {events : List (Event Note)}
    (lasting : 0 < span events) :
    0 < events.countP fun event => event.note?.isNone := by
  by_contra none
  have noted := List.countP_eq_zero.mp (Nat.eq_zero_of_not_pos none)
  have instant : ∀ length ∈ events.map wait, length = 0 := by
    intro length present
    obtain ⟨event, eventPresent, rfl⟩ := List.mem_map.mp present
    cases event with
    | exchanged | rested => exact absurd rfl (noted _ eventPresent)
    | noted => rfl
  rw [span, List.sum_eq_zero instant] at lasting
  exact absurd lasting (Nat.lt_irrefl 0)

/-- How many of some deeds are requests and pauses. -/
def Deed.waits (deeds : List Deed) : Nat := deeds.countP fun deed => deed.event.note?.isNone

theorem Deed.waits_eq_countP (deeds : List Deed) :
    waits deeds = (deeds.map event).countP fun event => event.note?.isNone := by
  rw [List.countP_map]
  rfl

namespace RunState

/-- Every walker waits no more than sixteen times. -/
theorem WellKept.waits_timeline_le
    {state : RunState}
    (wellKept : WellKept plan state journal)
    (known : walker < state.spawned) :
    Deed.waits (timeline journal walker) ≤ 16 := by
  have listed : walker ∈
      state.active.map ActiveWalk.walker ++ state.ended.map EndedWalk.walker :=
    (List.Perm.mem_iff wellKept.enrolled).mpr (List.mem_range.mpr known)
  rw [Deed.waits_eq_countP]
  rcases List.mem_append.mp listed with present | present
  · obtain ⟨walk, walkPresent, rfl⟩ := List.mem_map.mp present
    exact (Walker.walk_waitsAtMost _ _).countP_le
      (wellKept.chronicle.active walk walkPresent).leads
  · obtain ⟨walk, walkPresent, rfl⟩ := List.mem_map.mp present
    exact (Walker.walk_waitsAtMost _ _).countP_le
      (wellKept.chronicle.ended walk walkPresent).yields

theorem WellKept.waits_le
    {state : RunState}
    (wellKept : WellKept plan state journal) :
    Deed.waits journal ≤ 16 * state.spawned := by
  have parted := perm_timelines wellKept.chronicle.known
  have few : ∀ count ∈ (List.range state.spawned).map (fun walker =>
      Deed.waits (timeline journal walker)), count ≤ 16 := by
    intro count present
    obtain ⟨walker, listed, rfl⟩ := List.mem_map.mp present
    exact wellKept.waits_timeline_le (List.mem_range.mp listed)
  have total := List.sum_le_card_nsmul _ _ few
  rw [List.length_map, List.length_range, smul_eq_mul] at total
  rw [Deed.waits, parted.countP_eq, List.countP_flatMap, Nat.mul_comm]
  exact total

end RunState

/-- The shortest time for which the driver holds the slot of a walker. -/
def RunPlan.shortestDelay (plan : RunPlan) : Nat :=
  min Duration.longestWait plan.settings.minSpawnDelay.toNat

/-! ## Progress -/

/-- How far the driver is on its way to the next walker or to its end. -/
def DriverPhase.progress : DriverPhase → Nat
  | .asking => 0
  | .waiting => 1
  | .delaying _ => 2
  | .finished => 3
  | .broken _ => 3

namespace RunState

/-- How far a test is.  Ticks count no further than the first one that is too late. -/
def progress (plan : RunPlan) (state : RunState) (journal : List Deed) : Nat :=
  3 * state.spawned + state.phase.progress + 2 * min state.nextTick (plan.deadline + 1) +
    state.ended.length + Deed.waits journal

section

variable {plan : RunPlan} {state : RunState}

theorem one_le_tickInterval (valid : plan.settings.IsValid) : 1 ≤ plan.tickInterval := by
  have positive := valid.tick_pos
  simp only [RunPlan.tickInterval, Settings.tickIntervalDuration, Duration.ofMilliseconds,
    Duration.waitMilliseconds, Duration.longestWait]
  omega

theorem lt_tickAfter
    (positive : 1 ≤ interval)
    (due now : Nat) :
    due < tickAfter interval due now := by
  unfold tickAfter
  split_ifs
  · omega
  · omega

theorem waits_deedsOf (plan : RunPlan) (state : RunState) (walk : ActiveWalk) :
    Deed.waits (state.deedsOf plan walk) =
      (walk.remaining.stretch plan.api state.requests.size).countP
        fun event => event.note?.isNone := by
  rw [Deed.waits_eq_countP, event_deedsOf]

/-- Every action makes progress. -/
theorem progress_lt_act
    (valid : plan.settings.IsValid)
    (wellKept : WellKept plan state journal)
    (action : Action plan state deeds state') :
    state.progress plan journal < state'.progress plan (journal ++ deeds) := by
  unfold progress
  rw [Deed.waits, Deed.waits, List.countP_append, ← Deed.waits, ← Deed.waits]
  cases action with
  | tick idle due =>
      have pending := wellKept.timely.pending idle
      rw [wellKept.accounted.deadline_eq] at pending
      have later := lt_tickAfter (one_le_tickInterval valid) state.nextTick state.now
      have phase : state.phase.progress ≤ 1 := by
        rcases idle with idle | idle
        · rw [idle]
          exact Nat.zero_le 1
        · rw [idle]
          exact Nat.le_refl 1
      have asking : DriverPhase.progress .asking = 0 := rfl
      simp only [tick, note, asking]
      omega
  | take asking =>
      simp only [hold, asking, DriverPhase.progress]
      omega
  | queue asking =>
      simp only [asking, DriverPhase.progress]
      omega
  | collect _ assigned =>
      have waiting := (wellKept.serves.waiting_of_mem assigned).1
      simp only [hold, waiting, DriverPhase.progress]
      omega
  | refuse asking =>
      simp only [finish, note, asking, DriverPhase.progress]
      omega
  | withdraw pending =>
      have waiting := wellKept.serves.waiting_of_pending pending
      simp only [finish, note, waiting, DriverPhase.progress]
      omega
  | start delaying =>
      simp only [startWalker, delaying, DriverPhase.progress]
      omega
  | giveUp delaying =>
      simp only [finish, note, delaying, DriverPhase.progress]
      omega
  | carry _ _ eventsEq _ lasting =>
      have waited := Event.countP_pos_of_span_pos lasting
      rw [eventsEq, ← waits_deedsOf] at waited
      simp only [carried, recordEvents]
      omega
  | retire =>
      simp only [retired, recordEvents, List.length_cons]
      omega

theorem progress_lt_turn
    (valid : plan.settings.IsValid)
    (wellKept : WellKept plan state journal)
    (turn : Turn plan state deeds state') :
    state.progress plan journal < state'.progress plan (journal ++ deeds) := by
  induction turn generalizing journal with
  | single action => exact progress_lt_act valid wellKept action
  | more action turn hypothesis =>
      rw [← List.append_assoc]
      exact (progress_lt_act valid wellKept action).trans
        (hypothesis (wellKept.act action))

/-- Somebody can act once the clock has moved on. -/
theorem canAct_advance
    (nobody : ¬state.CanAct)
    (running : state.isOver = false) :
    state.advance.CanAct := by
  have awaited : state.wakeTimes ≠ [] := by
    unfold wakeTimes
    cases phase : state.phase with
    | asking => exact absurd (.inl (by simp [canDrive, phase])) nobody
    | waiting | delaying => simp
    | finished => simpa [isOver, phase] using running
    | broken => simp [isOver, phase] at running
  obtain ⟨least, leastEq⟩ : ∃ least, state.wakeTimes.min? = some least :=
    Option.ne_none_iff_exists'.mp (mt List.min?_eq_none_iff.mp awaited)
  have reached : least ≤ state.advance.now := by
    simp only [advance, leastEq]
    exact Nat.le_max_right _ _
  have present := List.min?_mem leastEq
  rw [advance_eq]
  rcases List.mem_append.mp present with driver | walker
  · left
    cases phase : state.phase with
    | waiting =>
        rw [phase, List.mem_singleton] at driver
        simp only [canDrive, isTickDue, Admission.isExpired]
        have due : state.nextTick ≤ state.advance.now ∨
            state.admission.deadline ≤ state.advance.now := by omega
        rcases due with due | due <;> simp [due]
    | delaying wakesAt =>
        rw [phase, List.mem_singleton] at driver
        simpa [canDrive, phase, driver] using reached
    | asking | finished | broken => simp [phase] at driver
  · right
    obtain ⟨walk, walkPresent, rfl⟩ := List.mem_map.mp walker
    exact List.ne_nil_of_mem (mem_ready.mpr ⟨walkPresent, reached⟩)

/-! ## The pace of the driver -/

/-- The driver holds its slot for the shortest delay at least before it starts a walker. -/
structure Paced (plan : RunPlan) (state : RunState) : Prop where
  pending : state.phase = .asking ∨ state.phase = .waiting →
    state.spawned * plan.shortestDelay ≤ state.now
  delay : state.phase = .delaying wakesAt →
    (state.spawned + 1) * plan.shortestDelay ≤ wakesAt
  within : state.spawned * plan.shortestDelay < plan.deadline

theorem shortestDelay_le_drawn (plan : RunPlan) (generator : Generator) :
    plan.shortestDelay ≤
      (plan.settings.spawnDelay.drawn generator).waitMilliseconds := by
  have le := DelayRange.lower_le_drawn plan.settings.spawnDelay_isRepresentable generator
  have lower : plan.settings.spawnDelay.lower.nanoseconds =
      1000000 * plan.settings.minSpawnDelay.toNat := rfl
  simp only [RunPlan.shortestDelay, Duration.waitMilliseconds]
  omega

theorem Paced.hold
    (paced : Paced plan state)
    (idle : state.phase = .asking ∨ state.phase = .waiting)
    (admission : Admission) :
    Paced plan ({ state with admission }.hold plan) := by
  refine ⟨nofun, ?_, paced.within⟩
  rintro wakesAt ⟨⟩
  have before := paced.pending idle
  have wait := shortestDelay_le_drawn plan state.generator
  simp only [RunState.hold, Nat.succ_mul]
  omega

theorem Paced.act
    (paced : Paced plan state)
    (inOrder : InOrder plan state)
    (action : Action plan state deeds state') :
    Paced plan state' := by
  cases action with
  | tick idle => exact ⟨fun _ => paced.pending idle, nofun, paced.within⟩
  | take asking => exact paced.hold (.inl asking) _
  | queue asking => exact ⟨fun _ => paced.pending (.inl asking), nofun, paced.within⟩
  | collect _ assigned =>
      exact paced.hold (.inr (inOrder.serves.waiting_of_mem assigned).1) _
  | refuse | withdraw | giveUp => exact ⟨nofun, nofun, paced.within⟩
  | start delaying elapsed early =>
      have later := (paced.delay delaying).trans elapsed
      refine ⟨fun _ => later, nofun, ?_⟩
      rw [← inOrder.accounted.deadline_eq]
      exact Nat.lt_of_le_of_lt later early
  | carry | retire => exact ⟨paced.pending, paced.delay, paced.within⟩

theorem Paced.advance (paced : Paced plan state) : Paced plan state.advance := by
  rw [advance_eq]
  exact ⟨fun idle => (paced.pending idle).trans (le_now_advance state), paced.delay,
    paced.within⟩

/-- A driver whose delays take time starts no more walkers than milliseconds pass. -/
theorem Paced.spawned_le
    (paced : Paced plan state)
    (delayed : 1 ≤ plan.settings.minSpawnDelay.toNat) :
    state.spawned ≤ plan.deadline := by
  have positive : 0 < plan.shortestDelay := lt_min (by decide) delayed
  exact (Nat.le_mul_of_pos_right _ positive).trans paced.within.le

/-- There is only so much progress to make. -/
theorem Paced.progress_le
    (paced : Paced plan state)
    (delayed : 1 ≤ plan.settings.minSpawnDelay.toNat)
    (wellKept : WellKept plan state journal) :
    state.progress plan journal ≤ 22 * plan.deadline + 5 := by
  have spawned := paced.spawned_le delayed
  have walkers := wellKept.enrolled.count_eq
  have waits := wellKept.waits_le
  have phase : state.phase.progress ≤ 3 := by
    cases state.phase <;> simp [DriverPhase.progress]
  unfold progress
  omega

end

end RunState

namespace RunPlan

open RunState

/-! ## The number of steps -/

theorem paced_after
    {plan : RunPlan}
    (valid : plan.settings.IsValid)
    (steps : Nat) :
    Paced plan (plan.after steps) := by
  apply wellKept_induction
  · refine ⟨fun _ => (Nat.zero_mul _).le, nofun, ?_⟩
    rw [show plan.outset.spawned = 0 from rfl, Nat.zero_mul]
    exact plan.deadline_pos valid
  · intro state journal deeds state' wellKept paced action
    exact paced.act wellKept.toInOrder action
  · intro state journal _ paced _
    exact paced.advance

/-- Every second step makes progress at least, until a test is over. -/
theorem steps_le_progress
    {plan : RunPlan}
    (valid : plan.settings.IsValid)
    (running : (plan.after steps).isOver = false) :
    steps ≤ 2 * (plan.after steps).progress plan (plan.journal steps) + 1 ∧
      (¬(plan.after steps).CanAct →
        steps ≤ 2 * (plan.after steps).progress plan (plan.journal steps)) := by
  induction steps with
  | zero => exact ⟨Nat.zero_le _, fun _ => Nat.zero_le _⟩
  | succ steps hypothesis =>
      have before : (plan.after steps).isOver = false := by
        by_contra stopped
        rw [after_of_isOver (by simpa using stopped) (Nat.le_succ steps)] at running
        exact stopped running
      obtain ⟨bound, tight⟩ := hypothesis before
      rw [after_succ, journal, before]
      simp only [Bool.false_eq_true, if_false]
      by_cases canAct : (plan.after steps).CanAct
      · have further := progress_lt_turn valid (plan.wellKept_after steps)
          (step_turn canAct plan)
        exact ⟨by omega, fun _ => by omega⟩
      · obtain ⟨stepEq, deedsEq⟩ := step_of_not_canAct canAct plan
        have same : (plan.after steps).advance.progress plan (plan.journal steps) =
            (plan.after steps).progress plan (plan.journal steps) := by
          rw [advance_eq]
          rfl
        have few := tight canAct
        rw [stepEq, deedsEq, List.append_nil, same]
        exact ⟨by omega, fun nobody => absurd (canAct_advance canAct before) nobody⟩

/-- A test whose walkers are started one after another is over in the end. -/
theorem isOver_after_stepBound
    {plan : RunPlan}
    (valid : plan.settings.IsValid)
    (delayed : 1 ≤ plan.settings.minSpawnDelay.toNat) :
    (plan.after plan.stepBound).isOver = true := by
  by_contra running
  have steps := (steps_le_progress valid (by simpa using running)).1
  have progress := (paced_after valid plan.stepBound).progress_le delayed
    (plan.wellKept_after plan.stepBound)
  have enough : 128 * (plan.deadline + 2) ≤ plan.stepBound := by
    have slots := valid.concurrency_pos
    exact Nat.mul_le_mul (by omega) (by omega)
  omega

/-- Slots that can be counted are opened. -/
theorem open?_eq
    {plan : RunPlan}
    (valid : plan.settings.IsValid) :
    Admission.open? plan.settings.maxConcurrency.toNat plan.deadline =
      .ok (.opened plan.settings.maxConcurrency.toNat plan.deadline) :=
  if_neg valid.concurrency_le.not_gt

/-- A test with valid settings has a final state if it is over after the steps that it is
given. -/
theorem finalStateWithin_eq
    {plan : RunPlan}
    (valid : plan.settings.IsValid)
    (steps : Nat) :
    plan.finalStateWithin steps =
      if (plan.after steps).isOver then .ok (plan.after steps) else .error .endless := by
  have intact := (plan.inOrder_after steps).intact
  simp only [finalStateWithin, plan.settings.validate_eq_ok.mpr valid, open?_eq valid]
  rw [after, outset] at intact ⊢
  split
  · exact absurd ‹_› (intact _)
  · rfl

/-- A test whose walkers are started one after another has a final state. -/
theorem exists_finalState
    {plan : RunPlan}
    (valid : plan.settings.IsValid)
    (delayed : 1 ≤ plan.settings.minSpawnDelay.toNat) :
    ∃ state, plan.finalState = .ok state := by
  rw [finalState, finalStateWithin_eq valid,
    if_pos (isOver_after_stepBound valid delayed)]
  exact ⟨_, rfl⟩

end RunPlan
end TransitLoad
