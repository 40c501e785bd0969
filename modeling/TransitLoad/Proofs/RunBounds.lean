import Mathlib.Order.Bounds.Defs
import TransitLoad.Proofs.QueueRefinement
import TransitLoad.Proofs.WalkSafety

/-!
# The bounds of a test

Whatever an API answers, walkers are started before the deadline and no closer to each
other than the shortest delay.  The driver stops at the deadline or during the delay that
it runs into, and the test is over when the last walker has ended; a walk sends six
requests and makes three pauses at most, so it is over not long after it was started.
-/

namespace TransitLoad

open Activity

/-! ## How long waits take -/

/-- A wait within so many milliseconds takes no more of them. -/
theorem Duration.waitMilliseconds_le
    {duration : Duration}
    (within : duration.nanoseconds ≤ 1000000 * milliseconds) :
    duration.waitMilliseconds ≤ milliseconds := by
  rw [waitMilliseconds]
  omega

theorem Duration.waitMilliseconds_le_roundedUp (duration : Duration) :
    duration.waitMilliseconds ≤ duration.roundedUp :=
  min_le_right _ _

/-- The ends of a range of milliseconds that is not inverted. -/
theorem DelayRange.max_ofMilliseconds
    {lower upper : Nat}
    (le : lower ≤ upper) :
    max (ofMilliseconds lower upper).lower.nanoseconds
      (ofMilliseconds lower upper).upper.nanoseconds = 1000000 * upper :=
  max_eq_right (Nat.mul_le_mul_left 1000000 le)

/-- Events take no longer than their requests and pauses, each as long as possible. -/
theorem Activity.Event.span_le
    {events : List (Event Note)}
    {latency pause : Nat}
    (answers : ∀ exchange ∈ exchanges events,
      exchange.2.elapsed.waitMilliseconds ≤ latency)
    (pauses : ∀ length ∈ rests events, length.waitMilliseconds ≤ pause) :
    span events ≤ (exchanges events).length * latency + (rests events).length * pause := by
  induction events with
  | nil => exact Nat.zero_le _
  | cons event events hypothesis =>
      rw [span_cons]
      cases event with
      | exchanged url answer =>
          have later := hypothesis
            (fun exchange present => answers exchange (List.mem_cons_of_mem _ present)) pauses
          have first : answer.elapsed.waitMilliseconds ≤ latency :=
            answers (url, answer) (List.mem_cons_self ..)
          change answer.elapsed.waitMilliseconds + span events ≤
            ((exchanges events).length + 1) * latency + (rests events).length * pause
          rw [Nat.succ_mul]
          omega
      | rested length =>
          have later := hypothesis answers
            fun other present => pauses other (List.mem_cons_of_mem _ present)
          have first : length.waitMilliseconds ≤ pause :=
            pauses length (List.mem_cons_self ..)
          change length.waitMilliseconds + span events ≤
            (exchanges events).length * latency + ((rests events).length + 1) * pause
          rw [Nat.succ_mul]
          omega
      | noted entry =>
          have later := hypothesis answers pauses
          change 0 + span events ≤
            (exchanges events).length * latency + (rests events).length * pause
          rwa [Nat.zero_add]

/-- A walk is over after six requests and three pauses. -/
theorem Walker.span_walk_le
    {itinerary : Itinerary}
    {walker : Walker}
    {api : Api}
    {latency pause : Nat}
    (representable : itinerary.pause.IsRepresentable)
    (yields : Yields (walker.walk itinerary) events result)
    (answered : AnsweredBy api events)
    (latencies : ∀ place url, (api place url).latency.roundedUp ≤ latency)
    (pauses : max itinerary.pause.lower.nanoseconds itinerary.pause.upper.nanoseconds ≤
      1000000 * pause) :
    Event.span events ≤ 6 * latency + 3 * pause := by
  obtain ⟨_, _, safe, _⟩ := exists_walkSafe representable yields
  have requests : (exchanges events).length ≤ 6 := safe.few
  have rested : (rests events).length ≤ 3 := Nat.le_of_lt_succ safe.pauses
  calc
    Event.span events ≤
        (exchanges events).length * latency + (rests events).length * pause := by
      apply Event.span_le
      · rintro ⟨url, answer⟩ present
        obtain ⟨event, eventPresent, same⟩ := List.mem_filterMap.mp present
        cases event with
        | exchanged url answer =>
            cases same
            obtain ⟨place, rfl⟩ := answered url answer eventPresent
            rw [wait_answer]
            exact ((api place url).latency.waitMilliseconds_le_roundedUp).trans
              (latencies place url)
        | rested | noted => cases same
      · intro length present
        exact Duration.waitMilliseconds_le ((safe.lengths length present).2.trans pauses)
    _ ≤ 6 * latency + 3 * pause :=
      Nat.add_le_add (Nat.mul_le_mul_right _ requests) (Nat.mul_le_mul_right _ rested)

namespace RunState

/-! ## When walkers are started -/

/-- The walkers of a test, each with the moment at which it was started. -/
def starts (state : RunState) : List (Nat × Nat) :=
  state.active.map (fun walk => (walk.walker, walk.startedAt)) ++
    state.ended.map fun walk => (walk.walker, walk.startedAt)

/-- Walkers are started in time, and no closer to each other than the shortest delay. -/
structure Spaced (plan : RunPlan) (state : RunState) : Prop extends Paced plan state where
  early : ∀ walker moment, (walker, moment) ∈ state.starts → moment < plan.deadline
  first : ∀ moment, (0, moment) ∈ state.starts → plan.shortestDelay ≤ moment
  apart : ∀ walker moment moment', (walker, moment) ∈ state.starts →
    (walker + 1, moment') ∈ state.starts → moment + plan.shortestDelay ≤ moment'
  since : state.phase = .asking ∨ state.phase = .waiting →
    ∀ walker moment, (walker, moment) ∈ state.starts → moment ≤ state.now
  ahead : state.phase = .delaying wakesAt →
    ∀ walker moment, (walker, moment) ∈ state.starts → moment + plan.shortestDelay ≤ wakesAt
  soon : state.phase = .delaying wakesAt →
    wakesAt < plan.deadline + plan.settings.maxSpawnDelay.toNat
  past : ∀ walk ∈ state.ended, walk.endedAt ≤ state.now

section

variable {plan : RunPlan} {state : RunState}

/-- No walker is started that is not enrolled. -/
theorem Enrolled.lt_of_mem_starts
    (enrolled : state.Enrolled)
    (present : (walker, moment) ∈ state.starts) :
    walker < state.spawned := by
  have listed : walker ∈
      state.active.map ActiveWalk.walker ++ state.ended.map EndedWalk.walker := by
    rcases List.mem_append.mp present with present | present
    · obtain ⟨walk, walkPresent, same⟩ := List.mem_map.mp present
      cases same
      exact List.mem_append_left _ (List.mem_map_of_mem walkPresent)
    · obtain ⟨walk, walkPresent, same⟩ := List.mem_map.mp present
      cases same
      exact List.mem_append_right _ (List.mem_map_of_mem walkPresent)
  exact List.mem_range.mp ((List.Perm.mem_iff enrolled).mp listed)

theorem starts_startWalker (plan : RunPlan) (state : RunState) :
    (state.startWalker plan).starts ⊆ (state.spawned, state.now) :: state.starts := by
  rintro ⟨walker, moment⟩ present
  simp only [starts, startWalker, List.map_append, List.map_cons, List.map_nil,
    List.mem_append, List.mem_cons] at present ⊢
  tauto

theorem starts_carried
    (state : RunState)
    (walk : ActiveWalk)
    (events : List (Event WalkNote))
    (remaining : RemainingWalk) :
    (state.carried walk events remaining).starts = state.starts := by
  simp only [starts, carried, recordEvents, List.map_map]
  congr 1
  apply List.map_congr_left
  intro other _
  simp only [Function.comp_apply]
  split_ifs <;> rfl

theorem starts_retired
    {walk : ActiveWalk}
    (present : walk ∈ state.active)
    (events : List (Event WalkNote))
    (result : Except Fault WalkOutcome) :
    (state.retired walk events result).starts ⊆ state.starts := by
  intro start listed
  rcases List.mem_append.mp listed with listed | listed
  · obtain ⟨other, otherPresent, rfl⟩ := List.mem_map.mp listed
    exact List.mem_append_left _ (List.mem_map_of_mem (List.mem_of_mem_filter otherPresent))
  · obtain ⟨other, otherPresent, rfl⟩ := List.mem_map.mp listed
    rcases List.mem_cons.mp otherPresent with rfl | otherPresent
    · exact List.mem_append_left _ (List.mem_map_of_mem present)
    · exact List.mem_append_right _ (List.mem_map_of_mem otherPresent)

/-- The longest delay for which the driver holds a slot. -/
theorem drawn_le_maxSpawnDelay
    (valid : plan.settings.IsValid)
    (generator : Generator) :
    (plan.settings.spawnDelay.drawn generator).waitMilliseconds ≤
      plan.settings.maxSpawnDelay.toNat := by
  have le := DelayRange.drawn_le plan.settings.spawnDelay_isRepresentable generator
  rw [Settings.spawnDelay, DelayRange.max_ofMilliseconds valid.spawnDelay_le] at le
  exact Duration.waitMilliseconds_le le

namespace Spaced

theorem hold
    (spaced : Spaced plan state)
    (valid : plan.settings.IsValid)
    (accounted : state.Accounted plan)
    (idle : state.phase = .asking ∨ state.phase = .waiting)
    (early : state.now < state.admission.deadline)
    (admission : Admission) :
    Spaced plan ({ state with admission }.hold plan) := by
  refine ⟨spaced.toPaced.hold idle admission, spaced.early, spaced.first, spaced.apart, nofun,
    ?_, ?_, spaced.past⟩
  · rintro wakesAt ⟨⟩ walker moment present
    exact Nat.add_le_add (spaced.since idle walker moment present)
      (shortestDelay_le_drawn plan state.generator)
  · rintro wakesAt ⟨⟩
    rw [accounted.deadline_eq] at early
    exact Nat.add_lt_add_of_lt_of_le early (drawn_le_maxSpawnDelay valid state.generator)

theorem start
    (spaced : Spaced plan state)
    (inOrder : InOrder plan state)
    (delaying : state.phase = .delaying wakesAt)
    (elapsed : wakesAt ≤ state.now)
    (early : state.now < state.admission.deadline) :
    Spaced plan (state.startWalker plan) := by
  have later {walker moment : Nat} (present : (walker, moment) ∈ state.starts) :
      moment + plan.shortestDelay ≤ state.now :=
    (spaced.ahead delaying walker moment present).trans elapsed
  have cases {walker moment : Nat}
      (present : (walker, moment) ∈ (state.startWalker plan).starts) :
      walker = state.spawned ∧ moment = state.now ∨ (walker, moment) ∈ state.starts := by
    rcases List.mem_cons.mp (starts_startWalker plan state present) with same | present
    · exact .inl (Prod.mk.inj same)
    · exact .inr present
  refine ⟨spaced.toPaced.act inOrder (.start delaying elapsed early), ?_, ?_, ?_, ?_, nofun,
    nofun, spaced.past⟩
  · intro walker moment present
    rcases cases present with ⟨_, rfl⟩ | present
    · rwa [← inOrder.accounted.deadline_eq]
    · exact spaced.early walker moment present
  · intro moment present
    rcases cases present with ⟨none, rfl⟩ | present
    · have waited := (spaced.delay delaying).trans elapsed
      rwa [← none, Nat.zero_add, Nat.one_mul] at waited
    · exact spaced.first moment present
  · intro walker moment moment' present present'
    rcases cases present with ⟨rfl, _⟩ | present
    · rcases cases present' with ⟨same, _⟩ | present'
      · exact absurd same (Nat.succ_ne_self _)
      · have lt := inOrder.enrolled.lt_of_mem_starts present'
        omega
    · rcases cases present' with ⟨_, rfl⟩ | present'
      · exact later present
      · exact spaced.apart walker moment moment' present present'
  · intro _ walker moment present
    rcases cases present with ⟨_, rfl⟩ | present
    · exact Nat.le_refl _
    · exact (Nat.le_add_right _ _).trans (later present)

/-- Nothing changes when a walker acts, except that it may have ended by now. -/
theorem walk
    {state' : RunState}
    (spaced : Spaced plan state)
    (paced : Paced plan state')
    (startsSubset : state'.starts ⊆ state.starts)
    (phaseEq : state'.phase = state.phase)
    (nowEq : state'.now = state.now)
    (past : ∀ walk ∈ state'.ended, walk.endedAt ≤ state.now) :
    Spaced plan state' where
  toPaced := paced
  early walker moment present := spaced.early walker moment (startsSubset present)
  first moment present := spaced.first moment (startsSubset present)
  apart walker moment moment' present present' :=
    spaced.apart walker moment moment' (startsSubset present) (startsSubset present')
  since := by
    rw [phaseEq, nowEq]
    intro idle walker moment present
    exact spaced.since idle walker moment (startsSubset present)
  ahead := by
    rw [phaseEq]
    intro wakesAt delaying walker moment present
    exact spaced.ahead delaying walker moment (startsSubset present)
  soon := by
    rw [phaseEq]
    exact spaced.soon
  past := by
    rw [nowEq]
    exact past

theorem act
    (spaced : Spaced plan state)
    (valid : plan.settings.IsValid)
    (inOrder : InOrder plan state)
    (action : Action plan state deeds state') :
    Spaced plan state' := by
  have accounted := inOrder.accounted
  have paced := spaced.toPaced.act inOrder action
  cases action with
  | tick idle =>
      exact ⟨paced, spaced.early, spaced.first, spaced.apart, fun _ => spaced.since idle, nofun,
        nofun, spaced.past⟩
  | take asking early => exact spaced.hold valid accounted (.inl asking) early _
  | queue asking =>
      exact ⟨paced, spaced.early, spaced.first, spaced.apart,
        fun _ => spaced.since (.inl asking), nofun, nofun, spaced.past⟩
  | collect early assigned =>
      exact spaced.hold valid accounted (.inr (inOrder.serves.waiting_of_mem assigned).1)
        early _
  | refuse | withdraw | giveUp =>
      exact ⟨paced, spaced.early, spaced.first, spaced.apart, nofun, nofun, nofun, spaced.past⟩
  | start delaying elapsed early => exact spaced.start inOrder delaying elapsed early
  | carry =>
      refine spaced.walk paced ?_ rfl rfl spaced.past
      rw [starts_carried]
      exact List.Subset.refl _
  | retire present =>
      refine spaced.walk paced (starts_retired present _ _) rfl rfl ?_
      intro walk listed
      rcases List.mem_cons.mp listed with rfl | listed
      · exact Nat.le_refl _
      · exact spaced.past walk listed

theorem advance (spaced : Spaced plan state) : Spaced plan state.advance := by
  have later := le_now_advance state
  have paced := spaced.toPaced.advance
  rw [advance_eq] at paced ⊢
  exact ⟨paced, spaced.early, spaced.first, spaced.apart,
    fun idle walker moment present => (spaced.since idle walker moment present).trans later,
    spaced.ahead, spaced.soon, fun walk present => (spaced.past walk present).trans later⟩

theorem outset
    {plan : RunPlan}
    (valid : plan.settings.IsValid) :
    Spaced plan plan.outset where
  toPaced := RunPlan.paced_after valid 0
  early _ _ := nofun
  first _ := nofun
  apart _ _ _ := nofun
  since _ _ _ := nofun
  ahead := nofun
  soon := nofun
  past _ := nofun

end Spaced

/-! ## The end of the loop -/

/-- A driver that starts no more walkers stopped at the deadline, or within the longest
delay after it. -/
def StopsInTime (plan : RunPlan) (state : RunState) : Prop :=
  state.phase = .finished →
    state.now = plan.deadline ∨
      plan.deadline ≤ state.now ∧
        state.now < plan.deadline + plan.settings.maxSpawnDelay.toNat

/-- Whatever the driver does, it stops in time. -/
theorem StopsInTime.act
    (inTime : state.StopsInTime plan)
    (spaced : Spaced plan state)
    (wellKept : WellKept plan state journal)
    (action : Action plan state deeds state') :
    state'.StopsInTime plan := by
  have deadlineEq := wellKept.accounted.deadline_eq
  cases action with
  | tick | take | queue | collect | start => nofun
  | refuse asking late =>
      intro _
      left
      rw [← deadlineEq]
      exact (wellKept.timely.pending (.inl asking)).antisymm late
  | withdraw pending late =>
      intro _
      left
      rw [← deadlineEq]
      have waiting := wellKept.serves.waiting_of_pending pending
      exact (wellKept.timely.pending (.inr waiting)).antisymm late
  | giveUp delaying elapsed late =>
      intro _
      right
      rw [← deadlineEq]
      refine ⟨late, (wellKept.timely.delay delaying).trans_lt ?_⟩
      rw [deadlineEq]
      exact spaced.soon delaying
  | carry => exact inTime
  | retire => exact inTime

/-- After the driver has stopped, time passes only until the last walker has ended. -/
structure Draining (loopEnd : Nat) (state : RunState) : Prop where
  finished : state.phase = .finished
  le_now : loopEnd ≤ state.now
  drained : state.active = [] →
    state.now = loopEnd ∨ ∃ walk ∈ state.ended, walk.endedAt = state.now

theorem Draining.act
    (draining : state.Draining loopEnd)
    (inOrder : InOrder plan state)
    (action : Action plan state deeds state') :
    state'.Draining loopEnd := by
  have finished := draining.finished
  cases action with
  | tick idle => simp [finished] at idle
  | take asking => simp [finished] at asking
  | queue asking => simp [finished] at asking
  | collect _ assigned =>
      have waiting := (inOrder.serves.waiting_of_mem assigned).1
      simp [finished] at waiting
  | refuse asking => simp [finished] at asking
  | withdraw pending =>
      have waiting := inOrder.serves.waiting_of_pending pending
      simp [finished] at waiting
  | start delaying => simp [finished] at delaying
  | giveUp delaying => simp [finished] at delaying
  | carry present =>
      refine ⟨finished, draining.le_now, ?_⟩
      intro none
      rw [List.map_eq_nil_iff.mp none] at present
      cases present
  | retire =>
      exact ⟨finished, draining.le_now, fun _ => .inr ⟨_, List.mem_cons_self .., rfl⟩⟩

theorem Draining.advance
    (draining : state.Draining loopEnd)
    (running : state.isOver = false) :
    state.advance.Draining loopEnd := by
  have later := draining.le_now.trans (le_now_advance state)
  rw [advance_eq]
  refine ⟨draining.finished, later, ?_⟩
  intro none
  simp [isOver, draining.finished, show state.active = [] from none] at running

end

end RunState

namespace RunPlan

open RunState

/-- The driver stops at some moment. -/
def LoopEndsAt (plan : RunPlan) (loopEnd : Nat) : Prop :=
  ∃ steps, (plan.after steps).phase ≠ .finished ∧
    (plan.after (steps + 1)).phase = .finished ∧ (plan.after (steps + 1)).now = loopEnd

theorem spaced_after
    {plan : RunPlan}
    (valid : plan.settings.IsValid)
    (steps : Nat) :
    Spaced plan (plan.after steps) := by
  apply wellKept_induction (.outset valid)
  · intro state journal deeds state' wellKept spaced action
    exact spaced.act valid wellKept.toInOrder action
  · intro state journal _ spaced _
    exact spaced.advance

/-- A driver that has stopped did so at some step, and in time. -/
theorem exists_loopEnd
    {plan : RunPlan}
    (valid : plan.settings.IsValid)
    (finished : (plan.after steps).phase = .finished) :
    ∃ last ≤ steps, plan.LoopEndsAt (plan.after last).now ∧
      (plan.after last).phase = .finished ∧ (plan.after last).StopsInTime plan := by
  induction steps with
  | zero => cases finished
  | succ steps hypothesis =>
      by_cases before : (plan.after steps).phase = .finished
      · obtain ⟨last, le, rest⟩ := hypothesis before
        exact ⟨last, Nat.le_succ_of_le le, rest⟩
      · refine ⟨steps + 1, Nat.le_refl _, ⟨steps, before, finished, rfl⟩, finished, ?_⟩
        have goesOn : (plan.after steps).isOver = false := by
          by_contra stopped
          rw [after_succ, if_pos (by simpa using stopped)] at finished
          exact before finished
        have canAct : (plan.after steps).CanAct := by
          by_contra nobody
          rw [after_succ, goesOn, if_neg Bool.false_ne_true, (step_of_not_canAct nobody plan).1,
            advance_eq] at finished
          exact before finished
        have turn := step_turn canAct plan
        rw [after_succ, goesOn, if_neg Bool.false_ne_true]
        have kept : WellKept plan ((plan.after steps).step plan)
              (plan.journal steps ++ (plan.after steps).nextDeeds plan) ∧
            Spaced plan ((plan.after steps).step plan) ∧
            ((plan.after steps).step plan).StopsInTime plan := by
          apply Turn.keeps (motive := fun state journal => WellKept plan state journal ∧
            Spaced plan state ∧ state.StopsInTime plan) _ turn
          · exact ⟨plan.wellKept_after steps, spaced_after valid steps,
              fun stopped => absurd stopped before⟩
          · rintro state journal deeds state' ⟨wellKept, spaced, inTime⟩ action
            exact ⟨wellKept.act action, spaced.act valid wellKept.toInOrder action,
              inTime.act spaced wellKept action⟩
        exact kept.2.2

theorem draining_after
    {plan : RunPlan}
    (finished : (plan.after last).phase = .finished)
    (le : last ≤ steps) :
    (plan.after steps).Draining (plan.after last).now := by
  have both : InOrder plan (plan.after steps) ∧
      (plan.after steps).Draining (plan.after last).now := by
    apply onward_induction (motive := fun state => InOrder plan state ∧
      state.Draining (plan.after last).now) _ _ le
    · exact ⟨plan.inOrder_after last, finished, Nat.le_refl _, fun _ => .inl rfl⟩
    · intro state deeds state' holds action
      exact ⟨holds.1.act action, holds.2.act holds.1 action⟩
    · intro state holds _ running
      exact ⟨holds.1.advance, holds.2.advance running⟩
  exact both.2

/-- No walk takes longer than six requests and three pauses. -/
theorem endedAt_le
    {plan : RunPlan}
    (valid : plan.settings.IsValid)
    (present : walk ∈ (plan.after steps).ended)
    (latencies : ∀ place url, (plan.api place url).latency.roundedUp ≤ latency) :
    walk.endedAt ≤ plan.deadline + 6 * latency + 3 * plan.settings.maxActionPause.toNat := by
  have chronicle := (plan.wellKept_after steps).chronicle
  have onCourse := chronicle.ended walk present
  have span := Walker.span_walk_le plan.settings.actionPause_isRepresentable onCourse.yields
    (chronicle.answered_timeline walk.walker) latencies
    (DelayRange.max_ofMilliseconds valid.actionPause_le).le
  have early := (spaced_after valid steps).early walk.walker walk.startedAt
    (List.mem_append_right _ (List.mem_map_of_mem present))
  rw [onCourse.unbroken.stop_eq]
  omega

/-- What a test keeps to whose delays are never shorter than some time, and whose driver
stops at some moment. -/
structure WithinBounds
    (plan : RunPlan)
    (shortest loopEnd : Nat)
    (state : RunState) : Prop where
  ended : ∀ walker, walker < state.summary.spawned ↔
    walker ∈ state.ended.map EndedWalk.walker
  early : ∀ walk ∈ state.ended, walk.startedAt < plan.deadline
  first : ∀ walk ∈ state.ended, walk.walker = 0 → shortest ≤ walk.startedAt
  apart : ∀ walk ∈ state.ended, ∀ next ∈ state.ended, next.walker = walk.walker + 1 →
    walk.startedAt + shortest ≤ next.startedAt
  number : state.summary.spawned * shortest < plan.deadline
  loopEnds : plan.LoopEndsAt loopEnd
  inTime : loopEnd = plan.deadline ∨
    plan.deadline ≤ loopEnd ∧ loopEnd < plan.deadline + plan.settings.maxSpawnDelay.toNat
  elapsed : IsGreatest
    {moment | moment = loopEnd ∨ ∃ walk ∈ state.ended, walk.endedAt = moment} state.now
  reported : state.summary.elapsedMilliseconds = min state.now (UInt64.size - 1)
  bounded : ∀ latency, (∀ place url, (plan.api place url).latency.roundedUp ≤ latency) →
    state.now ≤ max (plan.deadline + plan.settings.maxSpawnDelay.toNat)
      (plan.deadline + 6 * latency + 3 * plan.settings.maxActionPause.toNat)

/-- A test whose walkers are started one after another comes to its end within its bounds.
Every walker is started before the deadline, the first one no earlier than the shortest
delay, or thirty years if that is shorter, and every other one no earlier than that after
the one before it.  The driver stops at the deadline or within the longest delay after it,
and then the test is over when the last walker has ended. -/
theorem run_within_bounds
    {plan : RunPlan}
    (valid : plan.settings.validate = .ok ())
    (delayed : 1 ≤ plan.settings.minSpawnDelay.toNat) :
    ∃ state loopEnd, plan.finalState = .ok state ∧
      plan.WithinBounds plan.shortestDelay loopEnd state := by
  have isValid := plan.settings.validate_eq_ok.mp valid
  obtain ⟨state, ends⟩ := exists_finalState isValid delayed
  have started (walker : Nat) :
      walker ∈ state.ended.map EndedWalk.walker ↔ walker < state.spawned :=
    mem_ended_of_finalState ends
  obtain ⟨_, rfl, stopped⟩ := isOver_of_finalState ends
  obtain ⟨finished, none⟩ := (plan.inOrder_after _).finished stopped
  obtain ⟨last, le, loopEnds, finished', inTime⟩ := exists_loopEnd isValid finished
  have spaced := spaced_after isValid plan.stepBound
  have draining := draining_after finished' le
  have start {walk : EndedWalk} (present : walk ∈ (plan.after plan.stepBound).ended) :
      (walk.walker, walk.startedAt) ∈ (plan.after plan.stepBound).starts :=
    List.mem_append_right _ (List.mem_map_of_mem present)
  refine ⟨_, (plan.after last).now, ends, ?_⟩
  constructor
  · exact fun walker => (started walker).symm
  · intro walk present
    exact spaced.early _ _ (start present)
  · intro walk present same
    exact spaced.first _ (same ▸ start present)
  · intro walk present next nextPresent same
    exact spaced.apart _ _ _ (start present) (same ▸ start nextPresent)
  · exact spaced.within
  · exact loopEnds
  · exact inTime finished'
  · refine ⟨draining.drained none, ?_⟩
    rintro moment (rfl | ⟨walk, present, rfl⟩)
    · exact draining.le_now
    · exact spaced.past walk present
  · rfl
  · intro latency latencies
    rcases draining.drained none with same | ⟨walk, present, same⟩
    · rw [same, le_max_iff]
      left
      rcases inTime finished' with onTime | ⟨_, soon⟩
      · omega
      · exact soon.le
    · rw [← same, le_max_iff]
      exact .inr (endedAt_le isValid present latencies)

/-- The walkers of `slowWalkers` are further apart than its delays, and the last one ends
at the deadline. -/
theorem run_within_bounds_slowWalkers :
    slowWalkers.settings.validate = .ok () ∧
      1 ≤ slowWalkers.settings.minSpawnDelay.toNat ∧
      slowWalkers.shortestDelay = 200 ∧
      ∃ state loopEnd, slowWalkers.finalState = .ok state ∧
        slowWalkers.WithinBounds slowWalkers.shortestDelay loopEnd state ∧
        state.ended.map (fun walk => (walk.walker, walk.startedAt, walk.endedAt)) =
          [(1, 700, 1000), (0, 200, 500)] := by
  have valid : slowWalkers.settings.validate = .ok () := rfl
  obtain ⟨state, loopEnd, ends, within⟩ := run_within_bounds valid (by decide)
  have stateEq := eq_after_of_finalState ends slowWalkers_isOver (by decide)
  exact ⟨valid, by decide, by decide +kernel, state, loopEnd, ends, within,
    stateEq ▸ times_slowWalkers⟩

/-- The walkers of a test may be closer to each other than the shortest delay of its
settings: a delay of a century is over after thirty years. -/
theorem not_within_bounds_of_minSpawnDelay :
    ¬∀ plan : RunPlan, plan.settings.validate = .ok () →
      1 ≤ plan.settings.minSpawnDelay.toNat →
      (∀ place other url, (plan.api place url).latency = (plan.api other url).latency) →
      ∃ state loopEnd, plan.finalState = .ok state ∧
        plan.WithinBounds plan.settings.minSpawnDelay.toNat loopEnd state := by
  intro within
  obtain ⟨state, loopEnd, ends, bounds⟩ :=
    within oneCentury rfl (by decide) fun _ _ _ => rfl
  have stateEq := eq_after_of_finalState ends oneCentury_isOver (by decide +kernel)
  have number := bounds.number
  have spawned : state.summary.spawned = 1 := by
    rw [stateEq]
    decide +kernel
  have deadline : oneCentury.deadline = 946080001000 := by decide +kernel
  have delay : oneCentury.settings.minSpawnDelay.toNat = 3153600000000 := by decide +kernel
  rw [spawned, deadline, delay] at number
  omega

end RunPlan

end TransitLoad
