import TransitLoad.Proofs.Validity

/-!
# The slot of the driver

At every point of a test, also in the midst of a step, each slot in use is held by a walker
under way or by the driver.  The driver holds at most one: until a delay is over, or because
a walker that ended has handed it the slot that it waits for, until it takes it up or gives
it back.  The second is over within a step, so that between two steps the driver holds a
slot during a delay only.
-/

namespace TransitLoad

namespace RunState

/-- Whether the driver holds a slot: during a delay, or because one was handed to it that
it has yet to take up. -/
def driverHolds (state : RunState) : Bool :=
  match state.phase with
  | .delaying _ => true
  | .waiting => driverClient ∈ state.admission.assigned
  | .asking | .finished | .broken _ => false

/-- The slots of the driver are that of a delay and the one handed to it. -/
theorem slots_add_length_assigned
    {state : RunState}
    (serves : state.admission.Serves state.phase) :
    state.phase.slots + state.admission.assigned.length = state.driverHolds.toNat := by
  unfold driverHolds
  generalize state.phase = phase at serves
  cases serves with
  | queued _ assigned => simp [assigned, DriverPhase.slots]
  | assigned _ assigned => simp [assigned, DriverPhase.slots]
  | idle elsewhere _ assigned =>
      cases phase with
      | waiting => exact absurd rfl elsewhere
      | asking | delaying | finished | broken => simp [assigned, DriverPhase.slots]

/-- Every slot in use is held by a walker under way or by the driver. -/
theorem InOrder.inUse_eq
    {state : RunState}
    (inOrder : InOrder plan state) :
    state.admission.inUse = state.active.length + state.driverHolds.toNat := by
  have total := inOrder.accounted.unheld_eq
  have held := slots_add_length_assigned inOrder.serves
  rw [Admission.unheld] at total
  rw [Admission.inUse]
  omega

/-- A slot is handed to nobody but a driver that waits, and by nobody but a walker that
ends. -/
theorem InOrder.handed
    {state : RunState}
    (inOrder : InOrder plan state)
    (action : Action plan state deeds state')
    (before : driverClient ∉ state.admission.assigned)
    (after : driverClient ∈ state'.admission.assigned) :
    state.phase = .waiting ∧
      ∃ walk ∈ state.active, state'.ended.map EndedWalk.walker =
        walk.walker :: state.ended.map EndedWalk.walker := by
  have waiting := ((inOrder.act action).serves.waiting_of_mem after).1
  cases action with
  | tick | take | collect | refuse | withdraw | start | giveUp => cases waiting
  | queue | carry => exact absurd after before
  | retire present => exact ⟨waiting, _, present, rfl⟩

/-- A walker whose waiting is over ends if nothing that it does until its next wait takes
time. -/
theorem exists_retire
    {state : RunState}
    {walk : ActiveWalk}
    (present : walk ∈ state.active)
    (awake : walk.wakesAt ≤ state.now)
    (instant : Activity.Event.span
      (walk.remaining.stretch plan.api state.requests.size) = 0) :
    ∃ events result,
      Action plan state (state.deedsOf plan walk) (state.retired walk events result) := by
  have reached := carryOn_snd plan state walk.remaining
  cases progress : (state.carryOn plan walk.remaining).2 with
  | waits wakesAt remaining =>
      rw [progress] at reached
      exact absurd instant reached.2.2.ne'
  | ends result =>
      rw [progress] at reached
      exact ⟨_, result, .retire present awake rfl reached.1 instant⟩

/-- No action lowers the peak. -/
theorem peak_le_of_action (action : Action plan state deeds state') :
    state.admission.peak ≤ state'.admission.peak := by
  cases action with
  | tick => exact Nat.le_of_eq (Admission.peak_withdraw _ _).symm
  | take => exact Nat.le_max_left _ _
  | queue => exact Nat.le_refl _
  | collect => exact Nat.le_max_left _ _
  | refuse => exact Nat.le_refl _
  | withdraw => exact Nat.le_of_eq (Admission.peak_withdraw _ _).symm
  | start => exact Nat.le_refl _
  | giveUp => exact Nat.le_of_eq (Admission.peak_giveBack _).symm
  | carry => exact Nat.le_refl _
  | retire => exact Nat.le_of_eq (Admission.peak_giveBack _).symm

/-- A driver that has found no slot in use yet is about to take the first one. -/
def Opens (state : RunState) : Prop :=
  state.admission.peak = 0 → state.phase = .asking ∧ state.now = 0

theorem Opens.act
    {state : RunState}
    (valid : plan.settings.IsValid)
    (opens : state.Opens)
    (inOrder : InOrder plan state)
    (action : Action plan state deeds state') :
    state'.Opens := by
  intro unused
  have inUse : state'.admission.inUse = 0 :=
    Nat.le_zero.mp (unused ▸ (inOrder.act action).accounted.inUse_le_peak)
  have nobody : state'.driverHolds = false := by
    have held := (inOrder.act action).inUse_eq
    rw [inUse] at held
    exact Bool.toNat_eq_zero.mp (Nat.eq_zero_of_add_eq_zero_left held.symm)
  have capacityPos : 0 < state.admission.capacity := by
    rw [inOrder.accounted.capacity_eq]
    exact valid.concurrency_pos
  have deadlinePos : 0 < state.admission.deadline := by
    rw [inOrder.accounted.deadline_eq]
    exact plan.deadline_pos valid
  cases action with
  | take | collect => cases nobody
  | tick =>
      rw [tick, note, Admission.peak_withdraw] at unused
      exact ⟨rfl, (opens unused).2⟩
  | queue _ _ full =>
      simp only [Admission.inUse, Admission.enqueue] at inUse
      omega
  | refuse _ late =>
      have now := (opens unused).2
      omega
  | withdraw _ late =>
      simp only [finish, note, Admission.peak_withdraw] at unused
      have now := (opens unused).2
      omega
  | start delaying =>
      have asking := (opens unused).1
      rw [delaying] at asking
      cases asking
  | giveUp delaying =>
      simp only [finish, note, Admission.peak_giveBack] at unused
      have asking := (opens unused).1
      rw [delaying] at asking
      cases asking
  | carry => exact opens unused
  | retire =>
      simp only [retired, recordEvents, Admission.peak_giveBack] at unused
      exact opens unused

/-- A test that has found no slot in use goes on from its very beginning. -/
theorem Opens.advance
    {state : RunState}
    (opens : state.Opens)
    (nobody : ¬state.CanAct) :
    state.advance.Opens := by
  rw [advance_eq]
  intro unused
  have asking := (opens unused).1
  exact absurd (.inl (by simp [canDrive, asking])) nobody

end RunState

namespace RunPlan

open RunState

/-! ## States that follow one another -/

/-- The states that a test goes on to from one of its states, also in the midst of its
steps. -/
inductive GoesOnTo (plan : RunPlan) (start : RunState) : RunState → Prop where
  | here : GoesOnTo plan start start
  | step
      (onward : GoesOnTo plan start state)
      (running : state.isOver = false) :
      GoesOnTo plan start (state.step plan)
  | act
      (onward : GoesOnTo plan start state)
      (action : Action plan state deeds state') :
      GoesOnTo plan start state'

/-- What every action keeps, and the clock when it moves on, holds of all that follows. -/
theorem GoesOnTo.keeps
    {motive : RunState → Prop}
    (act : ∀ {state deeds state'}, motive state →
      Action plan state deeds state' → motive state')
    (advance : ∀ {state}, motive state → ¬state.CanAct → motive state.advance)
    (onward : plan.GoesOnTo start state)
    (holds : motive start) :
    motive state := by
  induction onward with
  | here => exact holds
  | @step state _ _ hypothesis =>
      by_cases canAct : state.CanAct
      · exact Turn.keepsState act (step_turn canAct plan) hypothesis
      · rw [(step_of_not_canAct canAct plan).1]
        exact advance hypothesis canAct
  | act _ action hypothesis => exact act hypothesis action

/-- Whatever is reached follows on the beginning. -/
theorem Reaches.goesOnTo
    {plan : RunPlan}
    (reached : plan.Reaches state) :
    plan.GoesOnTo plan.outset state := by
  induction reached with
  | begins validated opens =>
      rw [open?_eq (plan.settings.validate_eq_ok.mp validated)] at opens
      cases opens
      exact .here
  | goesOn _ running hypothesis => exact .step hypothesis running
  | acts _ action hypothesis => exact .act hypothesis action

theorem Reaches.inOrder
    {plan : RunPlan}
    (reached : plan.Reaches state) :
    InOrder plan state := by
  obtain ⟨_, _, wellKept⟩ := reached.exists_wellKept
  exact wellKept.toInOrder

theorem Reaches.opens
    {plan : RunPlan}
    (reached : plan.Reaches state) :
    state.Opens := by
  have valid := reached.exists_wellKept.1
  have both : InOrder plan state ∧ state.Opens := by
    apply reached.goesOnTo.keeps (motive := fun state => InOrder plan state ∧ state.Opens)
    · intro state deeds state' holds action
      exact ⟨holds.1.act action, holds.2.act valid holds.1 action⟩
    · intro state holds nobody
      exact ⟨holds.1.advance, holds.2.advance nobody⟩
    · exact ⟨.outset plan, fun _ => ⟨rfl, rfl⟩⟩
  exact both.2

/-- The peak never falls. -/
theorem GoesOnTo.peak_le
    {plan : RunPlan}
    (onward : plan.GoesOnTo start state) :
    start.admission.peak ≤ state.admission.peak := by
  apply onward.keeps (motive := fun state => start.admission.peak ≤ state.admission.peak)
  · intro state deeds state' holds action
    exact holds.trans (peak_le_of_action action)
  · intro state holds _
    rw [advance_eq]
    exact holds
  · exact Nat.le_refl _

/-! ## Slots -/

/-- A test that neither loses nor doubles a slot.  At all of its states, the slots in use
are those of the walkers under way and the one that the driver holds, and never more than
are allowed.  There are never more walkers under way than the peak that is reported at any
later state.  A slot that the driver holds without a delay was handed to it by a walker that
ended, and between two steps there is none.  In the end no slot is in use any more. -/
structure KeepsSlots (plan : RunPlan) : Prop where
  reached : ∀ steps, plan.Reaches (plan.after steps)
  inUse_eq : ∀ state, plan.Reaches state →
    state.admission.inUse = state.active.length + state.driverHolds.toNat
  enrolled : ∀ state, plan.Reaches state → state.Enrolled
  inUse_le : ∀ state, plan.Reaches state →
    state.admission.inUse ≤ plan.settings.maxConcurrency.toNat
  active_le : ∀ state later, plan.Reaches state → plan.GoesOnTo state later →
    state.active.length ≤ later.summary.peakConcurrency
  handed : ∀ state deeds state', plan.Reaches state → Action plan state deeds state' →
    driverClient ∉ state.admission.assigned → driverClient ∈ state'.admission.assigned →
    state.phase = .waiting ∧
      ∃ walk ∈ state.active, state'.ended.map EndedWalk.walker =
        walk.walker :: state.ended.map EndedWalk.walker
  between : ∀ steps, (plan.after steps).admission.inUse =
    (plan.after steps).active.length + (plan.after steps).phase.slots
  ends : ∀ state, plan.Reaches state → state.isOver = true →
    1 ≤ state.summary.peakConcurrency ∧
      state.summary.peakConcurrency ≤
        min plan.settings.maxConcurrency.toNat (state.summary.spawned + 1) ∧
      state.admission.inUse = 0

/-- Slot accounting of a whole test: with valid settings, it neither loses nor doubles a
slot, whatever the API answers, in whichever order walkers act, and however they end. -/
theorem slots_accounted
    {plan : RunPlan}
    (valid : plan.settings.validate = .ok ()) :
    plan.KeepsSlots where
  reached := reaches_after valid
  inUse_eq := fun _ reached => reached.inOrder.inUse_eq
  enrolled := fun _ reached => reached.inOrder.enrolled
  inUse_le := by
    intro state reached
    have accounted := reached.inOrder.accounted
    rw [← accounted.capacity_eq]
    exact accounted.inUse_le_peak.trans accounted.peak_le
  active_le := by
    intro state later reached onward
    calc
      state.active.length ≤ state.admission.inUse := by
        rw [reached.inOrder.inUse_eq]
        exact Nat.le_add_right _ _
      _ ≤ state.admission.peak := reached.inOrder.accounted.inUse_le_peak
      _ ≤ later.admission.peak := onward.peak_le
  handed := fun _ _ _ reached => reached.inOrder.handed
  between := by
    intro steps
    have held := slots_add_length_assigned (plan.inOrder_after steps).serves
    rw [plan.assigned_after steps, List.length_nil, Nat.add_zero] at held
    rw [(plan.inOrder_after steps).inUse_eq, held]
  ends := by
    intro state reached stopped
    have accounted := reached.inOrder.accounted
    obtain ⟨finished, none⟩ := reached.inOrder.finished stopped
    refine ⟨Nat.pos_of_ne_zero ?_, le_min ?_ accounted.peak_le_spawned, ?_⟩
    · intro unused
      have asking := (reached.opens unused).1
      rw [finished] at asking
      cases asking
    · rw [← accounted.capacity_eq]
      exact accounted.peak_le
    · rw [reached.inOrder.inUse_eq, none, driverHolds, finished]
      rfl

/-- The first walker of `slowWalkers` hands its slot to the driver when it ends. -/
theorem exists_handover :
    ∃ state, slowWalkers.Reaches state ∧ state.now = 500 ∧ state.phase = .waiting ∧
      state.active = [] ∧ state.admission.assigned = [driverClient] ∧
      state.admission.inUse = 1 := by
  have before : (slowWalkers.after 7).now = 500 ∧
      (slowWalkers.after 7).phase = .waiting ∧
      (slowWalkers.after 7).active.map ActiveWalk.walker = [0] ∧
      (slowWalkers.after 7).admission.waiting = [driverClient] ∧
      (slowWalkers.after 7).admission.inUse = 1 ∧
      ∀ walk ∈ (slowWalkers.after 7).active, walk.wakesAt ≤ (slowWalkers.after 7).now ∧
        Activity.Event.span (walk.remaining.stretch slowWalkers.api
          (slowWalkers.after 7).requests.size) = 0 := by decide +kernel
  have reached : slowWalkers.Reaches (slowWalkers.after 7) := reaches_after rfl 7
  have unassigned := slowWalkers.assigned_after 7
  generalize slowWalkers.after 7 = state at before reached unassigned
  obtain ⟨now, waiting, walkers, queued, inUse, instant⟩ := before
  obtain ⟨walk, active⟩ := List.length_eq_one_iff.mp
    (by simpa using congrArg List.length walkers)
  have present : walk ∈ state.active := by simp [active]
  obtain ⟨events, result, action⟩ :=
    exists_retire present (instant walk present).1 (instant walk present).2
  refine ⟨_, .acts reached action, now, waiting, ?_, ?_, ?_⟩
  · simp [retired, active]
  · simp [retired, Admission.giveBack, queued, unassigned]
  · rw [← inUse]
    simp [retired, Admission.giveBack, queued, Admission.inUse]

/-- The only slot of `slowWalkers` is that of the driver during its first delay, that of
the first walker once it is under way, and that of the driver without a delay when the
walker has ended.  In the end it is not in use. -/
theorem slots_accounted_slowWalkers :
    slowWalkers.settings.validate = .ok () ∧
      slowWalkers.KeepsSlots ∧
      (slowWalkers.after 2).admission.inUse = 0 + 1 ∧
      (slowWalkers.after 6).admission.inUse = 1 + 0 ∧
      (∃ state, slowWalkers.Reaches state ∧ state.active = [] ∧
        state.phase = .waiting ∧ state.driverHolds = true ∧ state.admission.inUse = 0 + 1) ∧
      (slowWalkers.after 16).isOver = true ∧
      (slowWalkers.after 16).admission.inUse = 0 := by
  have keeps : slowWalkers.KeepsSlots := slots_accounted rfl
  have delay : (slowWalkers.after 2).active.length = 0 ∧
      (slowWalkers.after 2).phase = .delaying 200 := by decide +kernel
  have walk : (slowWalkers.after 6).active.length = 1 ∧
      (slowWalkers.after 6).phase = .waiting := by decide +kernel
  refine ⟨rfl, keeps, ?_, ?_, ?_, slowWalkers_isOver,
    (keeps.ends _ (keeps.reached 16) slowWalkers_isOver).2.2⟩
  · rw [keeps.between, delay.1, delay.2]
    rfl
  · rw [keeps.between, walk.1, walk.2]
    rfl
  · obtain ⟨state, reached, _, waiting, nobody, assigned, _⟩ := exists_handover
    have holds : state.driverHolds = true := by simp [driverHolds, waiting, assigned]
    refine ⟨state, reached, nobody, waiting, holds, ?_⟩
    rw [keeps.inUse_eq state reached, nobody, holds]
    rfl

/-- The slots in use are not those of the walkers under way and of a delay alone: where a
walker has just ended, the driver may hold its slot without a delay. -/
theorem not_inUse_eq_without_handover :
    ¬∀ plan : RunPlan, plan.settings.validate = .ok () → ∀ state, plan.Reaches state →
      state.admission.inUse = state.active.length + state.phase.slots := by
  intro accounted
  obtain ⟨state, reached, _, waiting, nobody, _, inUse⟩ := exists_handover
  have none := accounted slowWalkers rfl state reached
  rw [inUse, nobody, waiting] at none
  cases none

end RunPlan
end TransitLoad
