import TransitLoad.Proofs.Termination
import TransitLoad.Proofs.TickLockstep

/-!
# Ticks are observation only

A tick makes a driver that waits for a slot give up and ask again at once.  As nobody else
asks for slots, it is where it was before, and nothing has been drawn and no time has
passed.  A test with ticks is therefore a shadow of the calm one without any: each of its
steps is a step of the calm test, or a tick, or the driver asking again, or the clock
stopping for a tick on its way to where it stops next in the calm test.
-/

namespace TransitLoad

/-- A client that does not ask has nothing to give up. -/
theorem Admission.withdraw_eq_self
    {admission : Admission}
    (waiting : admission.waiting = [])
    (assigned : admission.assigned = [])
    (client : Nat) :
    admission.withdraw client = admission := by
  rw [withdraw, if_neg (by simp [assigned]), waiting, List.erase_nil, ← waiting]

namespace RunState

/-! ## Steps of the driver -/

section

variable {state : RunState}

theorem step_of_tick
    (idle : state.phase = .asking ∨ state.phase = .waiting)
    (due : state.isTickDue = true)
    (plan : RunPlan) :
    state.step plan = state.tick plan := by
  rcases idle with phase | phase <;> simp [step, canDrive, drive, phase, due]

theorem step_of_asking
    (phase : state.phase = .asking)
    (notDue : state.isTickDue = false)
    (plan : RunPlan) :
    state.step plan = state.askForSlot plan := by
  simp [step, canDrive, drive, phase, notDue]

theorem step_of_waiting
    (phase : state.phase = .waiting)
    (notDue : state.isTickDue = false)
    (late : state.admission.deadline ≤ state.now)
    (plan : RunPlan) :
    state.step plan = state.lookForSlot plan := by
  simp [step, canDrive, drive, phase, notDue, Admission.isExpired, late]

theorem step_of_delaying
    (phase : state.phase = .delaying wakesAt)
    (elapsed : wakesAt ≤ state.now)
    (plan : RunPlan) :
    state.step plan = state.endDelay plan := by
  simp [step, canDrive, drive, phase, elapsed]

theorem askForSlot_of_late
    (late : state.admission.deadline ≤ state.now)
    (plan : RunPlan) :
    state.askForSlot plan = state.finish := by
  simp [askForSlot, Admission.ask, Admission.isExpired, late, heed]

theorem askForSlot_of_full
    (early : state.now < state.admission.deadline)
    (full : state.admission.available = 0)
    (plan : RunPlan) :
    state.askForSlot plan =
      { state with
        admission := state.admission.enqueue driverClient
        phase := .waiting } := by
  have notLate : ¬state.admission.isExpired state.now = true := by
    rwa [Admission.isExpired_iff, Nat.not_le]
  rw [askForSlot, Admission.ask, if_neg notLate, if_pos full]
  rfl

theorem lookForSlot_of_late
    (late : state.admission.deadline ≤ state.now)
    (plan : RunPlan) :
    state.lookForSlot plan =
      { state with admission := state.admission.withdraw driverClient }.finish := by
  simp [lookForSlot, Admission.resume, Admission.isExpired, late, heed]

end

/-! ## Calm tests -/

/-- A point of a calm test, whose first tick would come after the deadline. -/
structure Calm (plan : RunPlan) (state : RunState) : Prop extends InOrder plan state where
  timely : state.Timely
  tickless : plan.deadline < state.nextTick

section

variable {plan : RunPlan} {calm state : RunState}

/-- No tick is ever due that the driver could heed. -/
theorem Calm.now_lt_nextTick
    (isCalm : Calm plan calm)
    (idle : calm.phase = .asking ∨ calm.phase = .waiting) :
    calm.now < calm.nextTick := by
  have pending := isCalm.timely.pending idle
  rw [isCalm.accounted.deadline_eq] at pending
  exact pending.trans_lt isCalm.tickless

theorem Calm.isTickDue_eq_false
    (isCalm : Calm plan calm)
    (idle : calm.phase = .asking ∨ calm.phase = .waiting) :
    calm.isTickDue = false := by
  simpa [isTickDue] using isCalm.now_lt_nextTick idle

theorem Calm.act
    (isCalm : Calm plan calm)
    (action : Action plan calm deeds state) :
    Calm plan state where
  toInOrder := isCalm.toInOrder.act action
  timely := isCalm.timely.act action
  tickless := by
    cases action with
    | tick idle due => exact absurd due (Nat.not_le.mpr (isCalm.now_lt_nextTick idle))
    | take | queue | collect | refuse | withdraw | start | giveUp | carry | retire =>
        exact isCalm.tickless

theorem Calm.advance
    (isCalm : Calm plan calm)
    (nobody : ¬calm.CanAct) :
    Calm plan calm.advance where
  toInOrder := isCalm.toInOrder.advance
  timely := isCalm.timely.advance nobody
  tickless := by
    rw [advance_eq]
    exact isCalm.tickless

theorem Calm.step (isCalm : Calm plan calm) : Calm plan (calm.step plan) := by
  by_cases canAct : calm.CanAct
  · exact Turn.keepsState (fun isCalm action => Calm.act isCalm action)
      (step_turn canAct plan) isCalm
  · rw [(step_of_not_canAct canAct plan).1]
    exact isCalm.advance canAct

end

/-! ## Shadows -/

/-- Where the clock may stand in a shadow of a calm test: at the same moment, or, if the
driver of the calm test waits and nobody can act, anywhere before the next one. -/
inductive Reaches (calm : RunState) : Nat → Prop where
  | now : Reaches calm calm.now
  | between
      (waiting : calm.phase = .waiting)
      (nobody : ¬calm.CanAct)
      (since : calm.now ≤ moment)
      (before : moment < calm.advance.now) :
      Reaches calm moment

/-- A test with ticks as a shadow of a calm one. -/
inductive Shadows (calm : RunState) : RunState → Prop where
  /-- The drivers are about to do the same. -/
  | along
      (reaches : calm.Reaches moment)
      (alike : Alike { calm with now := moment } state) :
      Shadows calm state
  /-- After a tick, a driver is to ask again for what that of the calm test waits for. -/
  | again
      (waiting : calm.phase = .waiting)
      (reaches : calm.Reaches moment)
      (alike : Alike
        { calm with
          now := moment
          admission := calm.admission.withdraw driverClient
          phase := .asking } state) :
      Shadows calm state

section

variable {plan : RunPlan} {interval : UInt64} {calm state : RunState} {moment : Nat}

namespace Reaches

theorem since
    (reaches : calm.Reaches moment) :
    calm.now ≤ moment := by
  cases reaches with
  | now => exact Nat.le_refl _
  | between _ _ since _ => exact since

theorem le_advance
    (reaches : calm.Reaches moment) :
    moment ≤ calm.advance.now := by
  cases reaches with
  | now => exact le_now_advance calm
  | between _ _ _ before => exact before.le

theorem eq_now_of_canAct
    (reaches : calm.Reaches moment)
    (canAct : calm.CanAct) :
    moment = calm.now := by
  cases reaches with
  | now => rfl
  | between _ nobody => exact absurd canAct nobody

theorem eq_now_of_ne_waiting
    (reaches : calm.Reaches moment)
    (elsewhere : calm.phase ≠ .waiting) :
    moment = calm.now := by
  cases reaches with
  | now => rfl
  | between waiting => exact absurd waiting elsewhere

/-- The clock stands nowhere between at the deadline or later. -/
theorem eq_now_of_late
    (reaches : calm.Reaches moment)
    (late : calm.admission.deadline ≤ moment) :
    moment = calm.now := by
  cases reaches with
  | now => rfl
  | between waiting _ since before =>
      have awaited : min calm.nextTick calm.admission.deadline ∈ calm.wakeTimes := by
        simp [wakeTimes, waiting]
      have reached := advance_now_le awaited
      omega

/-- As long as a walker can act, the clocks agree. -/
theorem eq_now_of_awake
    (reaches : calm.Reaches moment)
    (timely : calm.Timely)
    (present : walk ∈ calm.active)
    (awake : walk.wakesAt ≤ moment) :
    moment = calm.now := by
  cases reaches with
  | now => rfl
  | between _ nobody _ before =>
      have later := timely.advance nobody
      rw [advance_eq] at later
      exact absurd (before.trans_le (later.walkers walk present)) (Nat.not_lt.mpr awake)

end Reaches

/-- The calm driver acts only if that of a shadow can. -/
theorem Alike.canDrive
    (alike : Alike calm state)
    (isCalm : Calm plan calm)
    (canDrive : calm.canDrive = true) :
    state.canDrive = true := by
  obtain ⟨nextTick', notes⟩ := alike
  cases phase : calm.phase with
  | waiting =>
      have idle := isCalm.isTickDue_eq_false (.inr phase)
      simp only [RunState.canDrive, phase, idle, Bool.false_or] at canDrive
      simp only [RunState.canDrive, Bool.or_assoc, canDrive, Bool.or_true]
  | asking => simp only [RunState.canDrive]
  | delaying =>
      simp only [RunState.canDrive, phase] at canDrive ⊢
      exact canDrive
  | finished | broken => simp [RunState.canDrive, phase] at canDrive

namespace Shadows

theorem isOver_eq
    (shadows : Shadows calm state) :
    state.isOver = calm.isOver := by
  cases shadows with
  | along reaches alike =>
      cases alike
      rfl
  | again waiting reaches alike =>
      cases alike
      simp [isOver, waiting]

/-- After a tick a test is still a shadow of the same point. -/
theorem tick
    (shadows : Shadows calm state)
    (isCalm : Calm plan calm)
    (idle : state.phase = .asking ∨ state.phase = .waiting)
    (plan' : RunPlan) :
    Shadows calm (state.tick plan') := by
  cases shadows with
  | along reaches alike =>
      have asking := alike.tick plan'
      cases phase : calm.phase with
      | asking =>
          obtain ⟨nobody, none⟩ := isCalm.serves.of_waiting_nil (by simp [phase])
          simp only [Admission.withdraw_eq_self nobody none, ← phase] at asking
          exact .along reaches asking
      | waiting => exact .again phase reaches asking
      | delaying | finished | broken => simp [alike.phase_eq, phase] at idle
  | again waiting reaches alike =>
      have asking := alike.tick plan'
      have withdrawn : (calm.admission.withdraw driverClient).Serves .asking :=
        isCalm.serves.withdraw nofun
      obtain ⟨nobody, none⟩ := withdrawn.of_waiting_nil nofun
      simp only [Admission.withdraw_eq_self nobody none] at asking
      exact .again waiting reaches asking

/-- A driver that asks again after a tick is turned away if the calm one is, and otherwise
waits again. -/
theorem askForSlot
    (isCalm : Calm plan calm)
    (unassigned : calm.admission.assigned = [])
    (waiting : calm.phase = .waiting)
    (reaches : calm.Reaches moment)
    (alike : Alike
      { calm with
        now := moment
        admission := calm.admission.withdraw driverClient
        phase := .asking } state) :
    Shadows calm (state.askForSlot (plan.withTickInterval interval)) ∨
      Shadows (calm.step plan) (state.askForSlot (plan.withTickInterval interval)) := by
  have asked : Alike (RunState.askForSlot plan _)
      (state.askForSlot (plan.withTickInterval interval)) := alike.askForSlot
  by_cases late : calm.admission.deadline ≤ moment
  · right
    obtain rfl := reaches.eq_now_of_late late
    rw [step_of_waiting waiting (isCalm.isTickDue_eq_false (.inr waiting)) late,
      lookForSlot_of_late late]
    rw [askForSlot_of_late (by simpa using late)] at asked
    exact .along .now asked
  · left
    obtain ⟨clients, full⟩ := (waiting ▸ isCalm.serves).queued_of_unassigned unassigned
    have left : calm.admission.withdraw driverClient = { calm.admission with waiting := [] } := by
      rw [Admission.withdraw, if_neg (by simp [unassigned]), clients]
      rfl
    have back : (calm.admission.withdraw driverClient).enqueue driverClient = calm.admission := by
      rw [left, Admission.enqueue, List.nil_append, ← clients]
    rw [askForSlot_of_full (by simpa using late) (left ▸ full)] at asked
    simp only [back, ← waiting] at asked
    exact .along reaches asked

/-- If no tick is due, drivers that are about to do the same do it. -/
theorem drive_along
    (isCalm : Calm plan calm)
    (unassigned : calm.admission.assigned = [])
    (reaches : calm.Reaches moment)
    (alike : Alike { calm with now := moment } state)
    (canDrive : state.canDrive = true)
    (notDue : state.phase = .asking ∨ state.phase = .waiting → state.isTickDue = false) :
    Shadows (calm.step plan) (state.step (plan.withTickInterval interval)) := by
  have samePhase : state.phase = calm.phase := alike.phase_eq
  have sameAdmission : state.admission = calm.admission := alike.admission_eq
  have here : state.now = moment := alike.now_eq
  cases phase : calm.phase with
  | asking =>
      obtain rfl := reaches.eq_now_of_canAct (.inl (by simp [RunState.canDrive, phase]))
      have asking := samePhase.trans phase
      rw [step_of_asking asking (notDue (.inl asking)),
        step_of_asking phase (isCalm.isTickDue_eq_false (.inl phase))]
      exact .along .now alike.askForSlot
  | waiting =>
      have waiting := samePhase.trans phase
      have late : state.admission.deadline ≤ state.now := by
        simpa [RunState.canDrive, waiting, notDue (.inr waiting), sameAdmission, unassigned,
          Admission.isExpired] using canDrive
      have late' : calm.admission.deadline ≤ moment := sameAdmission ▸ here ▸ late
      obtain rfl := reaches.eq_now_of_late late'
      rw [step_of_waiting waiting (notDue (.inr waiting)) late,
        step_of_waiting phase (isCalm.isTickDue_eq_false (.inr phase)) late']
      exact .along .now alike.lookForSlot
  | delaying wakesAt =>
      obtain rfl := reaches.eq_now_of_ne_waiting (by simp [phase])
      have delaying := samePhase.trans phase
      have elapsed : wakesAt ≤ state.now := by
        simpa [RunState.canDrive, delaying] using canDrive
      rw [step_of_delaying delaying elapsed, step_of_delaying phase (here ▸ elapsed)]
      exact .along .now alike.endDelay
  | finished | broken => simp [RunState.canDrive, samePhase, phase] at canDrive

/-- A shadow whose driver acts is a shadow of the same point or of the next one. -/
theorem drive
    (shadows : Shadows calm state)
    (isCalm : Calm plan calm)
    (unassigned : calm.admission.assigned = [])
    (canDrive : state.canDrive = true) :
    Shadows calm (state.step (plan.withTickInterval interval)) ∨
      Shadows (calm.step plan) (state.step (plan.withTickInterval interval)) := by
  by_cases due : (state.phase = .asking ∨ state.phase = .waiting) ∧ state.isTickDue = true
  · left
    rw [step_of_tick due.1 due.2]
    exact shadows.tick isCalm due.1 _
  · have notDue (idle : state.phase = .asking ∨ state.phase = .waiting) :
        state.isTickDue = false := by
      simpa [idle] using due
    cases shadows with
    | along reaches alike =>
        exact .inr (drive_along isCalm unassigned reaches alike canDrive notDue)
    | again waiting reaches alike =>
        have asking : state.phase = .asking := alike.phase_eq
        rw [step_of_asking asking (notDue (.inl asking))]
        exact askForSlot isCalm unassigned waiting reaches alike

/-- A shadow whose driver waits stops no later than the calm test when its clock moves
on. -/
theorem advance_now_le_advance_now
    (isCalm : Calm plan calm)
    (waiting : calm.phase = .waiting)
    (reaches : calm.Reaches moment)
    (alike : Alike { calm with now := moment } state) :
    state.advance.now ≤ calm.advance.now := by
  obtain ⟨least, leastEq⟩ : ∃ least, calm.wakeTimes.min? = some least :=
    Option.ne_none_iff_exists'.mp (mt List.min?_eq_none_iff.mp (by simp [wakeTimes, waiting]))
  have sooner : ∃ awaited ∈ state.wakeTimes, awaited ≤ least := by
    obtain ⟨nextTick', notes⟩ := alike
    rcases List.mem_append.mp (List.min?_mem leastEq) with driver | walker
    · rw [waiting, List.mem_singleton] at driver
      have tickless := isCalm.tickless
      rw [← isCalm.accounted.deadline_eq] at tickless
      refine ⟨min nextTick' calm.admission.deadline, by simp [wakeTimes, waiting], ?_⟩
      omega
    · exact ⟨least, List.mem_append_right _ walker, Nat.le_refl _⟩
  obtain ⟨awaited, present, le⟩ := sooner
  have reached : calm.advance.now = max calm.now least := by
    simp only [RunState.advance, leastEq]
  have here : state.now = moment := alike.now_eq
  calc
    state.advance.now ≤ max state.now awaited := advance_now_le present
    _ ≤ max calm.advance.now least := max_le_max (here ▸ reaches.le_advance) le
    _ = calm.advance.now := max_eq_left (reached ▸ le_max_right _ _)

/-- While nobody can act in a shadow, its clock moves on. -/
theorem advance
    (isCalm : Calm plan calm)
    (reaches : calm.Reaches moment)
    (alike : Alike { calm with now := moment } state)
    (nobody : ¬calm.CanAct) :
    Shadows calm state.advance ∨ Shadows calm.advance state.advance := by
  have here : state.now = moment := alike.now_eq
  have moved := alike.setClock state.advance.now
  rw [← advance_eq] at moved
  by_cases waiting : calm.phase = .waiting
  · rcases (advance_now_le_advance_now isCalm waiting reaches alike).lt_or_eq with before | same
    · left
      have since := reaches.since.trans (here ▸ le_now_advance state)
      exact .along (.between waiting nobody since before) moved
    · right
      rw [same] at moved
      rw [advance_eq calm]
      exact .along .now moved
  · right
    obtain rfl := reaches.eq_now_of_ne_waiting waiting
    have same : state.advance.now = calm.advance.now := by
      have sameTimes : state.wakeTimes = calm.wakeTimes := by
        cases alike
        unfold wakeTimes
        cases phase : calm.phase with
        | waiting => exact absurd phase waiting
        | asking | delaying | finished | broken => rfl
      simp only [RunState.advance, sameTimes, here]
      cases calm.wakeTimes.min? <;> simp [here]
    rw [same] at moved
    rw [advance_eq calm]
    exact .along .now moved

/-- A shadow whose driver cannot act is a shadow of the same point or of the next one after
the next step. -/
theorem proceed
    (shadows : Shadows calm state)
    (isCalm : Calm plan calm)
    (cannotDrive : state.canDrive = false) :
    Shadows calm (state.step (plan.withTickInterval interval)) ∨
      Shadows (calm.step plan) (state.step (plan.withTickInterval interval)) := by
  cases shadows with
  | again waiting reaches alike =>
      cases alike
      simp [RunState.canDrive] at cannotDrive
  | @along moment _ reaches alike =>
      have calmCannot (same : moment = calm.now) : calm.canDrive = false := by
        subst same
        by_contra can
        have able := alike.canDrive isCalm (by simpa using can)
        simp [able] at cannotDrive
      by_cases asleep : state.ready = []
      · have nobody : ¬calm.CanAct := by
          cases reaches with
          | now =>
              have calmAsleep : calm.ready = [] := alike.ready_eq ▸ asleep
              simp [CanAct, calmCannot rfl, calmAsleep]
          | between _ nobody => exact nobody
        have nobody' : ¬state.CanAct := by simp [CanAct, cannotDrive, asleep]
        rw [(step_of_not_canAct nobody' _).1, (step_of_not_canAct nobody plan).1]
        exact advance isCalm reaches alike nobody
      · right
        have inside : plan.order calm.turns % state.ready.length < state.ready.length :=
          Nat.mod_lt _ (List.length_pos_iff.mpr asleep)
        obtain ⟨walk, next⟩ : ∃ walk,
            state.ready[plan.order calm.turns % state.ready.length]? = some walk :=
          ⟨_, List.getElem?_eq_getElem inside⟩
        obtain ⟨present, awake⟩ := mem_ready.mp (List.mem_of_getElem? next)
        have same : moment = calm.now := by
          cases alike
          exact reaches.eq_now_of_awake isCalm.timely present awake
        subst same
        rw [alike.ready_eq] at next
        exact .along .now (alike.step_of_ready (calmCannot rfl) cannotDrive next)

/-- Every step of a shadow is one of the calm test or none. -/
theorem step
    (shadows : Shadows calm state)
    (isCalm : Calm plan calm)
    (unassigned : calm.admission.assigned = []) :
    Shadows calm (state.step (plan.withTickInterval interval)) ∨
      Shadows (calm.step plan) (state.step (plan.withTickInterval interval)) := by
  cases canDrive : state.canDrive with
  | true => exact shadows.drive isCalm unassigned canDrive
  | false => exact shadows.proceed isCalm canDrive

/-- A shadow that is over differs from the calm test in its next tick and in notes alone. -/
theorem alike_of_isOver
    (shadows : Shadows calm state)
    (inOrder : InOrder plan calm)
    (stopped : calm.isOver = true) :
    Alike calm state := by
  have finished := (inOrder.finished stopped).1
  cases shadows with
  | along reaches alike =>
      obtain rfl := reaches.eq_now_of_ne_waiting (by simp [finished])
      exact alike
  | again waiting => simp [finished] at waiting

end Shadows
end

end RunState

namespace RunPlan

open RunState

/-! ## Whole tests -/

/-- The beginning of a calm test. -/
def calmOutset (plan : RunPlan) : RunState :=
  { plan.outset with nextTick := plan.deadline + 1 }

/-- A calm test after so many steps, or at its end if that comes first. -/
def calmAfter (plan : RunPlan) (steps : Nat) : RunState :=
  plan.calmOutset.complete plan steps

theorem calmAfter_succ (plan : RunPlan) (steps : Nat) :
    plan.calmAfter (steps + 1) =
      if (plan.calmAfter steps).isOver then plan.calmAfter steps
      else (plan.calmAfter steps).step plan :=
  complete_succ plan steps plan.calmOutset

theorem calmAfter_of_isOver
    {plan : RunPlan}
    (stopped : (plan.calmAfter steps).isOver = true)
    (le : steps ≤ later) :
    plan.calmAfter later = plan.calmAfter steps := by
  induction later, le using Nat.le_induction with
  | base => rfl
  | succ later le hypothesis => rw [calmAfter_succ, hypothesis, if_pos stopped]

/-- A calm test has only one end. -/
theorem calmAfter_eq
    {plan : RunPlan}
    (stopped : (plan.calmAfter steps).isOver = true)
    (stopped' : (plan.calmAfter steps').isOver = true) :
    plan.calmAfter steps' = plan.calmAfter steps := by
  rcases Nat.le_total steps steps' with le | le
  · exact calmAfter_of_isOver stopped le
  · exact (calmAfter_of_isOver stopped' le).symm

theorem calm_outset (plan : RunPlan) : Calm plan plan.calmOutset where
  enrolled := (InOrder.outset plan).enrolled
  serves := (InOrder.outset plan).serves
  accounted := by
    have accounted := (InOrder.outset plan).accounted
    exact accounted.moved rfl rfl rfl (Nat.le_refl _) rfl (Nat.le_refl _)
  intact := (InOrder.outset plan).intact
  timely := ⟨nofun, nofun, fun _ => Nat.zero_le _⟩
  tickless := Nat.lt_succ_self _

/-- A calm test stays calm, and between two steps no slot waits to be taken up. -/
theorem calm_after (plan : RunPlan) (steps : Nat) :
    Calm plan (plan.calmAfter steps) ∧ (plan.calmAfter steps).admission.assigned = [] := by
  induction steps with
  | zero => exact ⟨plan.calm_outset, rfl⟩
  | succ steps hypothesis =>
      rw [calmAfter_succ]
      split_ifs
      · exact hypothesis
      · have isCalm := hypothesis.1.step
        exact ⟨isCalm, step_assigned isCalm.serves hypothesis.2⟩

/-- Whatever the time between ticks, every point of a test is a shadow of a point of the
calm one. -/
theorem exists_shadows
    (plan : RunPlan)
    (interval : UInt64)
    (steps : Nat) :
    ∃ calmSteps,
      Shadows (plan.calmAfter calmSteps) ((plan.withTickInterval interval).after steps) := by
  induction steps with
  | zero => exact ⟨0, .along .now (.intro _ rfl)⟩
  | succ steps hypothesis =>
      obtain ⟨calmSteps, shadows⟩ := hypothesis
      rw [after_succ]
      split_ifs with stopped
      · exact ⟨calmSteps, shadows⟩
      · rw [shadows.isOver_eq] at stopped
        obtain ⟨isCalm, unassigned⟩ := plan.calm_after calmSteps
        rcases shadows.step isCalm unassigned with same | next
        · exact ⟨calmSteps, same⟩
        · refine ⟨calmSteps + 1, ?_⟩
          rw [calmAfter_succ, if_neg stopped]
          exact next

/-- At its end a test is like the calm one at its end. -/
theorem exists_alike
    {plan : RunPlan}
    (ends : (plan.withTickInterval interval).finalState = .ok state) :
    ∃ calmSteps,
      (plan.calmAfter calmSteps).isOver = true ∧ Alike (plan.calmAfter calmSteps) state := by
  obtain ⟨_, rfl, stopped⟩ := isOver_of_finalState ends
  obtain ⟨calmSteps, shadows⟩ := plan.exists_shadows interval _
  rw [shadows.isOver_eq] at stopped
  exact ⟨calmSteps, stopped,
    shadows.alike_of_isOver (plan.calm_after calmSteps).1.toInOrder stopped⟩

/-- Ticks are observation only.  Two tests that differ in nothing but the time between
ticks come to an end with the same slots, the same draws left to make, the same walkers,
requests and notes of walkers, at the same moment and with the same result. -/
theorem ticks_only_observe
    {plan : RunPlan}
    {interval : UInt64}
    (valid : plan.settings.validate = .ok ())
    (positive : interval ≠ 0)
    (delayed : 1 ≤ plan.settings.minSpawnDelay.toNat) :
    ∃ state state',
      plan.finalState = .ok state ∧
      (plan.withTickInterval interval).finalState = .ok state' ∧
      state' = { state with nextTick := state'.nextTick, notes := state'.notes } ∧
      state'.walkNotes = state.walkNotes ∧
      state'.summary = state.summary ∧
      (plan.withTickInterval interval).run = plan.run := by
  have isValid := plan.settings.validate_eq_ok.mp valid
  have isValid' : (plan.withTickInterval interval).settings.IsValid :=
    { isValid with
      tick_pos := Nat.pos_of_ne_zero fun zero => positive (UInt64.toNat_inj.mp zero) }
  obtain ⟨state, ends⟩ := exists_finalState isValid delayed
  obtain ⟨state', ends'⟩ := exists_finalState isValid' delayed
  have own : plan.withTickInterval plan.settings.tickInterval = plan := rfl
  obtain ⟨steps, stopped, alike⟩ := exists_alike (own ▸ ends)
  obtain ⟨steps', stopped', alike'⟩ := exists_alike ends'
  rw [calmAfter_eq stopped stopped'] at alike'
  have same := Alike.of_both alike alike'
  refine ⟨state, state', ends, ends', ?_, same.walkNotes_eq, same.summary_eq, ?_⟩
  · cases same
    rfl
  · simp only [run, ends, ends', Except.map, same.summary_eq]

/-- The second walker of `slowWalkers` comes no later if its slot is asked for once more
after a tick, and if ticks fall on the moments at which the slot comes free and the deadline
passes. -/
theorem ticks_only_observe_slowWalkers :
    slowWalkers.settings.validate = .ok () ∧
      (250 : UInt64) ≠ 0 ∧
      1 ≤ slowWalkers.settings.minSpawnDelay.toNat ∧
      ((slowWalkers.withTickInterval 250).after 7).now = 250 ∧
      ((slowWalkers.withTickInterval 250).after 7).admission.waiting = [driverClient] ∧
      ((slowWalkers.withTickInterval 250).after 8).admission.waiting = [] ∧
      ((slowWalkers.withTickInterval 250).after 8).phase = .asking ∧
      ∃ state state',
        slowWalkers.finalState = .ok state ∧
        (slowWalkers.withTickInterval 250).finalState = .ok state' ∧
        state' = { state with nextTick := state'.nextTick, notes := state'.notes } ∧
        state'.walkNotes = state.walkNotes ∧
        state'.summary = state.summary ∧
        (slowWalkers.withTickInterval 250).run = slowWalkers.run := by
  have dropped : ((slowWalkers.withTickInterval 250).after 7).now = 250 ∧
      ((slowWalkers.withTickInterval 250).after 7).admission.waiting = [driverClient] ∧
      ((slowWalkers.withTickInterval 250).after 8).admission.waiting = [] ∧
      ((slowWalkers.withTickInterval 250).after 8).phase = .asking := by decide +kernel
  exact ⟨rfl, by decide, by decide, dropped.1, dropped.2.1, dropped.2.2.1, dropped.2.2.2,
    ticks_only_observe rfl (by decide) (by decide)⟩

end RunPlan
end TransitLoad
