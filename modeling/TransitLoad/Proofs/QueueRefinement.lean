import Mathlib.Data.Set.Card
import TransitLoad.Proofs.Queue
import TransitLoad.Proofs.Termination

/-!
# A test as a queue

Before an API that answers by the URL alone, the walkers of a test are the customers of
a queue.  Its driver is never ahead of the queue and never behind it: it goes on asking
for a slot until the moment at which the next customer is admitted, takes one at that
moment, and starts the walker when the customer starts.
-/

namespace TransitLoad

open Activity

/-- How many milliseconds a duration takes, rounded up. -/
def Duration.roundedUp (duration : Duration) : Nat :=
  (999999 + duration.nanoseconds) / 1000000

namespace RunPlan

/-- The delay for which the driver holds the slot of a walker. -/
def delayOf (plan : RunPlan) (walker : Nat) : Duration :=
  plan.settings.spawnDelay.drawn (plan.generatorAt walker)

/-- The walkers of a test as customers, if their waits are measured in some way. -/
def queueBy (plan : RunPlan) (measure : Duration → Nat) : Queue where
  capacity := plan.settings.maxConcurrency.toNat
  delay walker := measure (plan.delayOf walker)
  work walker := (((plan.walkOf walker).waits plan.api).map measure).sum

/-- The walkers of a test as customers, their waits being measured by its clock. -/
def queue (plan : RunPlan) : Queue := plan.queueBy Duration.waitMilliseconds

theorem work_queue (plan : RunPlan) (walker : Nat) :
    plan.queue.work walker =
      (((plan.walkOf walker).waits plan.api).map Duration.waitMilliseconds).sum := by
  rw [queue, queueBy]

theorem delay_queue (plan : RunPlan) (walker : Nat) :
    plan.queue.delay walker = (plan.delayOf walker).waitMilliseconds := by
  rw [queue, queueBy]

end RunPlan

namespace RunState

/-- The driver is where the queue wants it to be. -/
def OnTime (plan : RunPlan) (state : RunState) : Prop :=
  match state.phase with
  | .asking | .waiting =>
      plan.queue.arrival state.spawned ≤ state.now ∧
        ∀ moment, plan.queue.arrival state.spawned ≤ moment → moment < state.now →
          plan.queue.capacity ≤ plan.queue.unfinished state.spawned moment
  | .delaying wakesAt => wakesAt = plan.queue.start state.spawned
  | .finished => plan.deadline ≤ plan.queue.start state.spawned
  | .broken _ => True

/-- The walkers and the driver are where the queue wants them to be. -/
structure OnSchedule (plan : RunPlan) (state : RunState) : Prop where
  active : ∀ walk ∈ state.active, walk.startedAt = plan.queue.start walk.walker
  ended : ∀ walk ∈ state.ended, walk.startedAt = plan.queue.start walk.walker
  past : ∀ walk ∈ state.ended, walk.endedAt ≤ state.now
  early : ∀ walker < state.spawned, plan.queue.start walker < plan.deadline
  driver : state.OnTime plan

section

variable {plan : RunPlan} {state : RunState}

/-! ## Walkers -/

/-- A walker under way finishes no earlier than it wakes. -/
theorem OnSchedule.wakesAt_le_finish
    (onSchedule : OnSchedule plan state)
    (fixed : plan.api.IsFixed)
    (chronicle : Chronicle plan state journal)
    (present : walk ∈ state.active) :
    walk.wakesAt ≤ plan.queue.finish walk.walker := by
  have onCourse := chronicle.active walk present
  have waited := onCourse.leads.span_add_waits fixed
    (chronicle.answered_timeline walk.walker)
  rw [onCourse.unbroken.stop_eq, onSchedule.active walk present, Queue.finish,
    RunPlan.work_queue, ← waited]
  omega

/-- A walker that ended did so when the queue says that it finishes. -/
theorem OnSchedule.endedAt_eq_finish
    (onSchedule : OnSchedule plan state)
    (fixed : plan.api.IsFixed)
    (chronicle : Chronicle plan state journal)
    (present : walk ∈ state.ended) :
    walk.endedAt = plan.queue.finish walk.walker := by
  have onCourse := chronicle.ended walk present
  have waited := Leads.span_add_waits fixed onCourse.yields
    (chronicle.answered_timeline walk.walker)
  rw [onCourse.unbroken.stop_eq, onSchedule.ended walk present, Queue.finish,
    RunPlan.work_queue, ← waited, waits, List.map_nil, List.sum_nil, Nat.add_zero]

/-- The walkers that were started are those under way and those that ended. -/
theorem Enrolled.countP_range
    (enrolled : state.Enrolled)
    (property : Nat → Bool) :
    (List.range state.spawned).countP property =
      state.active.countP (fun walk => property walk.walker) +
        state.ended.countP (fun walk => property walk.walker) := by
  rw [← List.Perm.countP_eq _ enrolled, List.countP_append, List.countP_map, List.countP_map]
  simp only [Function.comp_def]

/-- The walkers that have yet to finish are among those under way and those that
ended. -/
theorem unfinished_eq
    (enrolled : state.Enrolled)
    (moment : Nat) :
    plan.queue.unfinished state.spawned moment =
      state.active.countP (fun walk => moment < plan.queue.finish walk.walker) +
        state.ended.countP (fun walk => moment < plan.queue.finish walk.walker) :=
  enrolled.countP_range fun walker => moment < plan.queue.finish walker

/-- Only walkers under way have yet to finish. -/
theorem OnSchedule.unfinished_le
    (onSchedule : OnSchedule plan state)
    (fixed : plan.api.IsFixed)
    (enrolled : state.Enrolled)
    (chronicle : Chronicle plan state journal) :
    plan.queue.unfinished state.spawned state.now ≤ state.active.length := by
  have none : state.ended.countP
      (fun walk => state.now < plan.queue.finish walk.walker) = 0 := by
    rw [List.countP_eq_zero]
    intro walk present
    rw [decide_eq_true_eq, ← onSchedule.endedAt_eq_finish fixed chronicle present]
    exact Nat.not_lt.mpr (onSchedule.past walk present)
  rw [unfinished_eq enrolled, none, Nat.add_zero]
  exact List.countP_le_length

/-- As long as no walker under way wakes, none of them finishes. -/
theorem OnSchedule.le_unfinished
    (onSchedule : OnSchedule plan state)
    (fixed : plan.api.IsFixed)
    (enrolled : state.Enrolled)
    (chronicle : Chronicle plan state journal)
    (asleep : ∀ walk ∈ state.active, moment < walk.wakesAt) :
    state.active.length ≤ plan.queue.unfinished state.spawned moment := by
  have all : state.active.countP
      (fun walk => moment < plan.queue.finish walk.walker) = state.active.length := by
    rw [List.countP_eq_length]
    intro walk present
    rw [decide_eq_true_eq]
    exact (asleep walk present).trans_le
      (onSchedule.wakesAt_le_finish fixed chronicle present)
  rw [unfinished_eq enrolled, all]
  exact Nat.le_add_right _ _

/-! ## The driver -/

/-- A driver without a slot has waited in vain since the next customer came. -/
theorem OnTime.pending
    (onTime : state.OnTime plan)
    (idle : state.phase = .asking ∨ state.phase = .waiting) :
    plan.queue.arrival state.spawned ≤ state.now ∧
      ∀ moment, plan.queue.arrival state.spawned ≤ moment → moment < state.now →
        plan.queue.capacity ≤ plan.queue.unfinished state.spawned moment := by
  rcases idle with asking | waiting
  · rwa [OnTime, asking] at onTime
  · rwa [OnTime, waiting] at onTime

theorem OnTime.of_pending
    (idle : state.phase = .asking ∨ state.phase = .waiting)
    (came : plan.queue.arrival state.spawned ≤ state.now)
    (full : ∀ moment, plan.queue.arrival state.spawned ≤ moment → moment < state.now →
      plan.queue.capacity ≤ plan.queue.unfinished state.spawned moment) :
    state.OnTime plan := by
  rcases idle with asking | waiting
  · rw [OnTime, asking]
    exact ⟨came, full⟩
  · rw [OnTime, waiting]
    exact ⟨came, full⟩

/-- A driver that takes a slot does so when the next customer is admitted. -/
theorem OnSchedule.admission_eq
    (onSchedule : OnSchedule plan state)
    (fixed : plan.api.IsFixed)
    (valid : plan.settings.IsValid)
    (wellKept : WellKept plan state journal)
    (idle : state.phase = .asking ∨ state.phase = .waiting)
    (free : 0 < state.admission.unheld) :
    plan.queue.admission state.spawned = state.now := by
  obtain ⟨came, full⟩ := onSchedule.driver.pending idle
  have capacity : plan.queue.capacity = state.admission.capacity :=
    wellKept.accounted.capacity_eq.symm
  have opening : plan.queue.unfinished state.spawned state.now < plan.queue.capacity := by
    have busy := onSchedule.unfinished_le fixed wellKept.enrolled wellKept.chronicle
    have total := wellKept.accounted.unheld_eq
    omega
  exact Queue.admission_eq valid.concurrency_pos came full opening

/-- The delay of a driver that takes a slot is over when the next customer starts. -/
theorem OnSchedule.start_eq
    (onSchedule : OnSchedule plan state)
    (fixed : plan.api.IsFixed)
    (valid : plan.settings.IsValid)
    (wellKept : WellKept plan state journal)
    (idle : state.phase = .asking ∨ state.phase = .waiting)
    (free : 0 < state.admission.unheld) :
    state.now + (plan.settings.spawnDelay.drawn state.generator).waitMilliseconds =
      plan.queue.start state.spawned := by
  have generator : state.generator = plan.generatorAt state.spawned := by
    have seeded := wellKept.seeded
    rcases idle with asking | waiting
    · rwa [Seeded, asking] at seeded
    · rwa [Seeded, waiting] at seeded
  rw [Queue.start_eq, onSchedule.admission_eq fixed valid wellKept idle free,
    RunPlan.delay_queue, RunPlan.delayOf, generator]

/-- A driver without a slot at the deadline has no more customers to admit before it. -/
theorem OnSchedule.deadline_le_admission
    (onSchedule : OnSchedule plan state)
    (valid : plan.settings.IsValid)
    (accounted : state.Accounted plan)
    (idle : state.phase = .asking ∨ state.phase = .waiting)
    (late : state.admission.deadline ≤ state.now) :
    plan.deadline ≤ plan.queue.admission state.spawned := by
  obtain ⟨came, full⟩ := onSchedule.driver.pending idle
  rw [accounted.deadline_eq] at late
  exact late.trans (Queue.le_admission valid.concurrency_pos full)

/-- A driver without a slot at the deadline has no more customers before it. -/
theorem OnSchedule.deadline_le_start
    (onSchedule : OnSchedule plan state)
    (valid : plan.settings.IsValid)
    (accounted : state.Accounted plan)
    (idle : state.phase = .asking ∨ state.phase = .waiting)
    (late : state.admission.deadline ≤ state.now) :
    plan.deadline ≤ plan.queue.start state.spawned := by
  rw [Queue.start_eq]
  exact (onSchedule.deadline_le_admission valid accounted idle late).trans
    (Nat.le_add_right _ _)

/-- While nobody can act, a driver that waits finds all slots taken until the clock has
moved on. -/
theorem OnSchedule.full_until_advance
    (onSchedule : OnSchedule plan state)
    (fixed : plan.api.IsFixed)
    (wellKept : WellKept plan state journal)
    (nobody : ¬state.CanAct)
    (waiting : state.phase = .waiting)
    (before : moment < state.advance.now) :
    plan.queue.capacity ≤ plan.queue.unfinished state.spawned moment := by
  have capacity : plan.queue.capacity = state.admission.capacity :=
    wellKept.accounted.capacity_eq.symm
  have unassigned : driverClient ∉ state.admission.assigned := by
    intro assigned
    exact nobody (.inl (by simp [canDrive, waiting, assigned]))
  have unheld : state.admission.unheld = 0 := by
    have serves := wellKept.serves
    rw [waiting] at serves
    cases serves with
    | queued _ assigned full => rw [Admission.unheld, assigned, full, List.length_nil]
    | assigned _ assigned => exact absurd (by simp [assigned]) unassigned
    | idle elsewhere => exact absurd rfl elsewhere
  have asleep : ∀ walk ∈ state.active, moment < walk.wakesAt := by
    have timely := wellKept.timely.advance nobody
    rw [advance_eq] at timely
    intro walk present
    exact before.trans_le (timely.walkers walk present)
  have busy := onSchedule.le_unfinished fixed wellKept.enrolled wellKept.chronicle asleep
  have total := wellKept.accounted.unheld_eq
  have slots : DriverPhase.slots .waiting = 0 := rfl
  rw [unheld, waiting, slots] at total
  omega

/-! ## Actions -/

/-- What the driver does leaves the walkers on schedule. -/
theorem OnSchedule.drive
    {state' : RunState}
    (onSchedule : OnSchedule plan state)
    (activeEq : state'.active = state.active)
    (endedEq : state'.ended = state.ended)
    (spawnedEq : state'.spawned = state.spawned)
    (nowEq : state'.now = state.now)
    (driver : state'.OnTime plan) :
    OnSchedule plan state' := by
  constructor
  · rw [activeEq]
    exact onSchedule.active
  · rw [endedEq]
    exact onSchedule.ended
  · rw [endedEq, nowEq]
    exact onSchedule.past
  · rw [spawnedEq]
    exact onSchedule.early
  · exact driver

/-- A walker is started when the next customer starts. -/
theorem OnSchedule.start
    (onSchedule : OnSchedule plan state)
    (wellKept : WellKept plan state journal)
    (delaying : state.phase = .delaying wakesAt)
    (elapsed : wakesAt ≤ state.now)
    (early : state.now < state.admission.deadline) :
    OnSchedule plan (state.startWalker plan) := by
  have now : state.now = plan.queue.start state.spawned := by
    have wakes := onSchedule.driver
    rw [OnTime, delaying] at wakes
    rw [← wakes]
    exact (wellKept.timely.delay delaying).antisymm elapsed
  constructor
  · intro walk present
    rw [Chronicle.active_startWalker wellKept.seeded delaying] at present
    rcases List.mem_append.mp present with present | present
    · exact onSchedule.active walk present
    · rw [List.mem_singleton.mp present]
      exact now
  · exact onSchedule.ended
  · exact onSchedule.past
  · intro walker lt
    rcases Nat.lt_succ_iff_lt_or_eq.mp lt with lt | rfl
    · exact onSchedule.early walker lt
    · rw [← now, ← wellKept.accounted.deadline_eq]
      exact early
  · refine .of_pending (.inl rfl) (Nat.le_of_eq now.symm) ?_
    intro moment came before
    exact absurd (came.trans_lt before) (Nat.not_lt.mpr (Nat.le_of_eq now))

/-- A walker that carries on stays on schedule. -/
theorem OnSchedule.carry
    (onSchedule : OnSchedule plan state)
    (walk : ActiveWalk)
    (events : List (Event WalkNote))
    (remaining : RemainingWalk) :
    OnSchedule plan (state.carried walk events remaining) where
  active := by
    intro other present
    obtain ⟨before, beforePresent, rfl⟩ := List.mem_map.mp present
    split_ifs
    · exact onSchedule.active before beforePresent
    · exact onSchedule.active before beforePresent
  ended := onSchedule.ended
  past := onSchedule.past
  early := onSchedule.early
  driver := onSchedule.driver

/-- A walker that ends was on schedule. -/
theorem OnSchedule.retire
    (onSchedule : OnSchedule plan state)
    (present : walk ∈ state.active)
    (events : List (Event WalkNote))
    (result : Except Fault WalkOutcome) :
    OnSchedule plan (state.retired walk events result) where
  active := by
    intro other otherPresent
    exact onSchedule.active other (List.mem_of_mem_filter otherPresent)
  ended := by
    intro other otherPresent
    rcases List.mem_cons.mp otherPresent with rfl | otherPresent
    · exact onSchedule.active walk present
    · exact onSchedule.ended other otherPresent
  past := by
    intro other otherPresent
    rcases List.mem_cons.mp otherPresent with rfl | otherPresent
    · exact Nat.le_refl _
    · exact onSchedule.past other otherPresent
  early := onSchedule.early
  driver := onSchedule.driver

theorem OnSchedule.act
    (onSchedule : OnSchedule plan state)
    (fixed : plan.api.IsFixed)
    (valid : plan.settings.IsValid)
    (wellKept : WellKept plan state journal)
    (action : Action plan state deeds state') :
    OnSchedule plan state' := by
  cases action with
  | tick idle =>
      obtain ⟨came, full⟩ := onSchedule.driver.pending idle
      exact onSchedule.drive rfl rfl rfl rfl (.of_pending (.inl rfl) came full)
  | take asking early free =>
      refine onSchedule.drive rfl rfl rfl rfl ?_
      apply onSchedule.start_eq fixed valid wellKept (.inl asking)
      rw [Admission.unheld]
      omega
  | queue asking =>
      obtain ⟨came, full⟩ := onSchedule.driver.pending (.inl asking)
      exact onSchedule.drive rfl rfl rfl rfl (.of_pending (.inr rfl) came full)
  | collect early assigned =>
      obtain ⟨waiting, _, assignedEq⟩ := wellKept.serves.waiting_of_mem assigned
      refine onSchedule.drive rfl rfl rfl rfl ?_
      apply onSchedule.start_eq fixed valid wellKept (.inr waiting)
      rw [Admission.unheld, assignedEq]
      exact Nat.succ_pos _
  | refuse asking late =>
      exact onSchedule.drive rfl rfl rfl rfl
        (onSchedule.deadline_le_start valid wellKept.accounted (.inl asking) late)
  | withdraw pending late =>
      have waiting := wellKept.serves.waiting_of_pending pending
      exact onSchedule.drive rfl rfl rfl rfl
        (onSchedule.deadline_le_start valid wellKept.accounted (.inr waiting) late)
  | start delaying elapsed early => exact onSchedule.start wellKept delaying elapsed early
  | giveUp delaying elapsed late =>
      refine onSchedule.drive rfl rfl rfl rfl ?_
      have wakes := onSchedule.driver
      rw [OnTime, delaying] at wakes
      calc
        plan.deadline = state.admission.deadline := wellKept.accounted.deadline_eq.symm
        _ ≤ state.now := late
        _ ≤ plan.queue.start state.spawned := by
          rw [← wakes]
          exact wellKept.timely.delay delaying
  | carry => exact onSchedule.carry _ _ _
  | retire present => exact onSchedule.retire present _ _

theorem OnSchedule.advance
    (onSchedule : OnSchedule plan state)
    (fixed : plan.api.IsFixed)
    (wellKept : WellKept plan state journal)
    (nobody : ¬state.CanAct) :
    OnSchedule plan state.advance := by
  have later := le_now_advance state
  have onTime := onSchedule.driver
  have driver : { state with now := state.advance.now }.OnTime plan := by
    by_cases waiting : state.phase = .waiting
    · refine .of_pending (.inr waiting) ((onTime.pending (.inr waiting)).1.trans later) ?_
      intro moment _ before
      exact onSchedule.full_until_advance fixed wellKept nobody waiting before
    · unfold OnTime at onTime ⊢
      cases phase : state.phase with
      | asking => exact absurd (.inl (by simp [canDrive, phase])) nobody
      | waiting => exact absurd phase waiting
      | delaying => rwa [phase] at onTime
      | finished => rwa [phase] at onTime
      | broken => trivial
  rw [advance_eq]
  exact ⟨onSchedule.active, onSchedule.ended,
    fun walk present => (onSchedule.past walk present).trans later, onSchedule.early, driver⟩

end

/-! ## The end of a test -/

/-- A test went as a queue has it: it started the walkers that the queue starts before
the deadline and no others, each of them once, and they started and ended when the
queue has them start and finish. -/
structure Follows (queue : Queue) (deadline : Nat) (state : RunState) : Prop where
  started : ∀ walker,
    walker ∈ state.ended.map EndedWalk.walker ↔ queue.start walker < deadline
  once : (state.ended.map EndedWalk.walker).Nodup
  startedAt : ∀ walk ∈ state.ended, walk.startedAt = queue.start walk.walker
  endedAt : ∀ walk ∈ state.ended, walk.endedAt = queue.finish walk.walker
  number : state.summary.spawned = {walker | queue.start walker < deadline}.ncard

theorem OnSchedule.outset (plan : RunPlan) : OnSchedule plan plan.outset where
  active := by simp [RunPlan.outset, initial]
  ended := by simp [RunPlan.outset, initial]
  past := by simp [RunPlan.outset, initial]
  early := fun _ impossible => absurd impossible (Nat.not_lt_zero _)
  driver := by
    refine .of_pending (.inl rfl) ?_ fun _ _ impossible => absurd impossible (Nat.not_lt_zero _)
    rw [Queue.arrival.eq_def]
    exact Nat.zero_le _

/-- A test that is over has started all customers that start before the deadline. -/
theorem OnSchedule.lt_spawned_iff
    {plan : RunPlan}
    {state : RunState}
    (onSchedule : OnSchedule plan state)
    (valid : plan.settings.IsValid)
    (finished : state.phase = .finished)
    (walker : Nat) :
    walker < state.spawned ↔ plan.queue.start walker < plan.deadline := by
  constructor
  · exact onSchedule.early walker
  · intro early
    have late := onSchedule.driver
    rw [OnTime, finished] at late
    by_contra ge
    have slots : 0 < plan.queue.capacity := valid.concurrency_pos
    have later := Queue.start_monotone slots (Nat.not_lt.mp ge)
    exact absurd (late.trans later) (Nat.not_le.mpr early)

theorem OnSchedule.follows
    {plan : RunPlan}
    {state : RunState}
    (onSchedule : OnSchedule plan state)
    (fixed : plan.api.IsFixed)
    (valid : plan.settings.IsValid)
    (wellKept : WellKept plan state journal)
    (stopped : state.isOver = true) :
    state.Follows plan.queue plan.deadline := by
  have spawned := onSchedule.lt_spawned_iff valid (wellKept.finished stopped).1
  have walkers := wellKept.perm_ended stopped
  constructor
  · intro walker
    rw [walkers.mem_iff, List.mem_range]
    exact spawned walker
  · exact walkers.nodup_iff.mpr List.nodup_range
  · exact onSchedule.ended
  · intro walk present
    exact onSchedule.endedAt_eq_finish fixed wellKept.chronicle present
  · have same : {walker | plan.queue.start walker < plan.deadline} =
        (Finset.range state.spawned : Set Nat) := by
      ext walker
      rw [Set.mem_ofPred_eq, Finset.mem_coe, Finset.mem_range, spawned walker]
    rw [same, Set.ncard_coe_finset, Finset.card_range]
    rfl

end RunState

namespace RunPlan

open RunState

theorem onSchedule_after
    {plan : RunPlan}
    (fixed : plan.api.IsFixed)
    (valid : plan.settings.IsValid)
    (steps : Nat) :
    OnSchedule plan (plan.after steps) := by
  apply wellKept_induction (.outset plan)
  · intro state journal deeds state' wellKept onSchedule action
    exact onSchedule.act fixed valid wellKept action
  · intro state journal wellKept onSchedule nobody
    exact onSchedule.advance fixed wellKept nobody

/-- Before an API that answers by the URL alone, a test that ends goes as its queue has
it. -/
theorem follows_of_finalState
    {plan : RunPlan}
    (fixed : plan.api.IsFixed)
    (ends : plan.finalState = .ok state) :
    state.Follows plan.queue plan.deadline := by
  obtain ⟨isValid, rfl, stopped⟩ := isOver_of_finalState ends
  exact (onSchedule_after fixed isValid _).follows fixed isValid (plan.wellKept_after _) stopped

/-- Before an API that answers by the URL alone, a test whose walkers are started one
after another comes to its end, and goes as its queue has it. -/
theorem run_follows_queue
    {plan : RunPlan}
    (valid : plan.settings.validate = .ok ())
    (delayed : 1 ≤ plan.settings.minSpawnDelay.toNat)
    (fixed : plan.api.IsFixed) :
    ∃ state, plan.finalState = .ok state ∧ state.Follows plan.queue plan.deadline := by
  have isValid := plan.settings.validate_eq_ok.mp valid
  obtain ⟨state, ends⟩ := exists_finalState isValid delayed
  exact ⟨state, ends, follows_of_finalState fixed ends⟩

/-- When the walkers of `slowWalkers` start and end. -/
theorem times_slowWalkers :
    (slowWalkers.after 16).ended.map
        (fun walk => (walk.walker, walk.startedAt, walk.endedAt)) =
      [(1, 700, 1000), (0, 200, 500)] := by decide +kernel

/-- The second walker of `slowWalkers` waits until the first one has ended, and only then
for its delay. -/
theorem run_follows_queue_slowWalkers :
    slowWalkers.settings.validate = .ok () ∧
      1 ≤ slowWalkers.settings.minSpawnDelay.toNat ∧
      slowWalkers.api.IsFixed ∧
      (∃ state, slowWalkers.finalState = .ok state ∧
        state.Follows slowWalkers.queue slowWalkers.deadline) ∧
      slowWalkers.queue.start 0 = 200 ∧
      slowWalkers.queue.finish 0 = 500 ∧
      slowWalkers.queue.start 1 = 700 := by
  have valid : slowWalkers.settings.validate = .ok () := rfl
  have fixed : slowWalkers.api.IsFixed := fun _ _ _ => rfl
  obtain ⟨state, ends, follows⟩ := run_follows_queue valid (by decide) fixed
  have times := times_slowWalkers
  rw [← eq_after_of_finalState ends slowWalkers_isOver (by decide)] at times
  have listed (entry : Nat × Nat × Nat) (present : entry ∈ [(1, 700, 1000), (0, 200, 500)]) :
      slowWalkers.queue.start entry.1 = entry.2.1 ∧
        slowWalkers.queue.finish entry.1 = entry.2.2 := by
    rw [← times] at present
    obtain ⟨walk, ended, rfl⟩ := List.mem_map.mp present
    exact ⟨(follows.startedAt walk ended).symm, (follows.endedAt walk ended).symm⟩
  exact ⟨valid, by decide, fixed, ⟨state, ends, follows⟩,
    (listed (0, 200, 500) (by simp)).1, (listed (0, 200, 500) (by simp)).2,
    (listed (1, 700, 1000) (by simp)).1⟩

/-! ## Very long waits -/

/-- The clock of a test and rounding up alone make the same queue if no wait is longer
than thirty years. -/
theorem queue_eq_queueBy_roundedUp
    {plan : RunPlan}
    (delays : ∀ walker, (plan.delayOf walker).roundedUp ≤ Duration.longestWait)
    (waits : ∀ walker, ∀ length ∈ (plan.walkOf walker).waits plan.api,
      length.roundedUp ≤ Duration.longestWait) :
    plan.queue = plan.queueBy Duration.roundedUp := by
  ext walker
  · rfl
  · exact Nat.min_eq_right (delays walker)
  · apply congrArg List.sum
    apply List.map_congr_left
    intro length present
    exact Nat.min_eq_right (waits walker length present)

/-- A test of a little more than thirty years with one slot, whose driver waits for a
century before it starts a walker. -/
def oneCentury : RunPlan where
  settings := { Settings.defaults with
    durationSeconds := 946080001
    maxConcurrency := 1
    minSpawnDelay := 3153600000000
    maxSpawnDelay := 3153600000000 }
  api := fun _ _ => ⟨.zero, .status 404⟩
  order := id

theorem oneCentury_isOver : (oneCentury.after 9).isOver = true := by decide +kernel

/-- A test does not go as the queue has it whose waits are rounded up and nothing
else: a delay of a century is over after thirty years. -/
theorem not_follows_roundedUp :
    ¬∀ plan : RunPlan, plan.settings.validate = .ok () →
      1 ≤ plan.settings.minSpawnDelay.toNat → plan.api.IsFixed →
      ∃ state, plan.finalState = .ok state ∧
        state.Follows (plan.queueBy Duration.roundedUp) plan.deadline := by
  intro follows
  obtain ⟨state, ends, follows⟩ :=
    follows oneCentury rfl (by decide) fun _ _ _ => rfl
  have stateEq := eq_after_of_finalState ends oneCentury_isOver (by decide +kernel)
  have present : 0 ∈ state.ended.map EndedWalk.walker := by
    rw [stateEq]
    decide +kernel
  have early := (follows.started 0).mp present
  have delay : (oneCentury.queueBy Duration.roundedUp).delay 0 = 3153600000000 := by
    decide +kernel
  have deadline : oneCentury.deadline = 946080001000 := by decide +kernel
  rw [Queue.start_eq, delay, deadline] at early
  omega

end RunPlan
end TransitLoad
