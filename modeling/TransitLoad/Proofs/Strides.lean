import TransitLoad.Proofs.Termination

/-!
# Strides

Between two steps of a test no slot waits to be taken up.  Whatever happens in one step is
one of a few strides: an action of the driver, an action of a walker while the driver
cannot act, with the driver taking over its slot if it waits for one, or the clock moving
on.  This presumes that the delays of the driver take time.
-/

namespace TransitLoad

open Activity

namespace RunState

/-- What happens in one step. -/
inductive Stride (plan : RunPlan) : RunState → RunState → Prop where
  | tick
      (idle : state.phase = .asking ∨ state.phase = .waiting) :
      Stride plan state (state.tick plan)
  | take
      (asking : state.phase = .asking)
      (early : state.now < state.admission.deadline)
      (free : 0 < state.admission.available) :
      Stride plan state ({ state with admission := state.admission.take }.hold plan)
  | queue
      (asking : state.phase = .asking)
      (early : state.now < state.admission.deadline)
      (full : state.admission.available = 0) :
      Stride plan state
        { state with
          admission := state.admission.enqueue driverClient
          phase := .waiting }
  | refuse
      (asking : state.phase = .asking)
      (late : state.admission.deadline ≤ state.now) :
      Stride plan state state.finish
  | withdraw
      (waiting : state.phase = .waiting)
      (late : state.admission.deadline ≤ state.now) :
      Stride plan state
        { state with admission := state.admission.withdraw driverClient }.finish
  | start
      (delaying : state.phase = .delaying wakesAt)
      (elapsed : wakesAt ≤ state.now)
      (early : state.now < state.admission.deadline) :
      Stride plan state (state.startWalker plan)
  | giveUp
      (delaying : state.phase = .delaying wakesAt)
      (elapsed : wakesAt ≤ state.now)
      (late : state.admission.deadline ≤ state.now) :
      Stride plan state { state with admission := state.admission.giveBack }.finish
  /-- A walker carries on. -/
  | carry
      (cannotDrive : state.canDrive = false)
      (action : Action plan state deeds (state.carried walk events remaining)) :
      Stride plan state (state.carried walk events remaining)
  /-- A walker ends, and nobody waits for its slot. -/
  | retire
      (cannotDrive : state.canDrive = false)
      (elsewhere : state.phase ≠ .waiting)
      (action : Action plan state deeds (state.retired walk events result)) :
      Stride plan state (state.retired walk events result)
  /-- A walker ends, and the driver takes over its slot. -/
  | relieve
      (waiting : state.phase = .waiting)
      (early : state.now < state.admission.deadline)
      (action : Action plan state deeds (state.retired walk events result))
      (assigned : driverClient ∈ (state.retired walk events result).admission.assigned) :
      Stride plan state
        ({ state.retired walk events result with
          admission :=
            (state.retired walk events result).admission.collect driverClient }.hold plan)
  | advance
      (nobody : ¬state.CanAct) :
      Stride plan state state.advance

section

variable {plan : RunPlan} {state : RunState}

/-- A delay that takes time does not end at once. -/
theorem beginDelay_eq_hold
    (delayed : 1 ≤ plan.shortestDelay)
    (state : RunState) :
    state.beginDelay plan = state.hold plan := by
  have lasting := shortestDelay_le_drawn plan state.generator
  rw [beginDelay_eq, if_neg (by omega)]

theorem stride_drive
    (delayed : 1 ≤ plan.shortestDelay)
    (unassigned : state.admission.assigned = [])
    (canDrive : state.canDrive = true) :
    Stride plan state (state.drive plan) := by
  unfold drive
  cases phase : state.phase with
  | asking =>
      simp only
      split_ifs with due
      · exact .tick (.inl phase)
      · simp only [askForSlot, Admission.ask]
        split_ifs with late full
        · exact .refuse phase ((Admission.isExpired_iff ..).mp late)
        · rw [Admission.isExpired_iff, Nat.not_le] at late
          exact .queue phase late full
        · rw [Admission.isExpired_iff, Nat.not_le] at late
          simp only [heed, beginDelay_eq_hold delayed]
          exact .take phase late (Nat.pos_of_ne_zero full)
  | waiting =>
      simp only
      split_ifs with due
      · exact .tick (.inr phase)
      · have late : state.admission.isExpired state.now = true := by
          simpa [RunState.canDrive, phase, due, unassigned] using canDrive
        simp only [lookForSlot, Admission.resume, if_pos late]
        exact .withdraw phase ((Admission.isExpired_iff ..).mp late)
  | delaying wakesAt =>
      have elapsed : wakesAt ≤ state.now := by simpa [RunState.canDrive, phase] using canDrive
      simp only
      rcases Nat.lt_or_ge state.now state.admission.deadline with early | late
      · rw [endDelay_of_early early]
        exact .start phase elapsed early
      · rw [endDelay_of_late late]
        exact .giveUp phase elapsed late
  | finished | broken => simp [RunState.canDrive, phase] at canDrive

theorem stride_act
    {walk : ActiveWalk}
    (delayed : 1 ≤ plan.shortestDelay)
    (serves : state.admission.Serves state.phase)
    (unassigned : state.admission.assigned = [])
    (cannotDrive : state.canDrive = false)
    (present : walk ∈ state.active)
    (awake : walk.wakesAt ≤ state.now) :
    Stride plan state ({ state with turns := state.turns + 1 }.act plan walk) := by
  have reached := carryOn_snd plan { state with turns := state.turns + 1 } walk.remaining
  have recorded := carryOn_fst plan { state with turns := state.turns + 1 } walk.remaining
  unfold act
  generalize carryOn plan { state with turns := state.turns + 1 } walk.remaining = progress
    at reached recorded
  obtain ⟨after, progress⟩ := progress
  cases recorded
  cases progress with
  | waits wakesAt remaining =>
      obtain ⟨passage, rfl, lasting⟩ := reached
      exact .carry cannotDrive (.carry present awake rfl passage lasting)
  | ends result =>
      obtain ⟨yields, instant⟩ := reached
      have action : Action plan state (state.deedsOf plan walk)
          (state.retired walk (walk.remaining.stretch plan.api state.requests.size) result) :=
        .retire present awake rfl yields instant
      simp only [endWalk]
      split_ifs with assigned
      · have waiting : state.phase = .waiting :=
          ((serves_act serves action).waiting_of_mem assigned).1
        have early : state.now < state.admission.deadline := by
          simp only [RunState.canDrive, waiting, Bool.or_eq_false_iff] at cannotDrive
          simpa [Admission.isExpired] using cannotDrive.1.2
        have unexpired : ¬state.admission.giveBack.isExpired state.now = true := by
          rwa [Admission.isExpired_iff, Admission.deadline_giveBack, Nat.not_le]
        simp only [lookForSlot, Admission.resume]
        rw [if_neg unexpired, if_pos assigned, heed, beginDelay_eq_hold delayed]
        exact .relieve waiting early action assigned
      · have elsewhere : state.phase ≠ .waiting := by
          intro waiting
          obtain ⟨clients, _⟩ := (waiting ▸ serves).queued_of_unassigned unassigned
          simp [Admission.giveBack, clients] at assigned
        exact .retire cannotDrive elsewhere action

/-- Every step is a stride. -/
theorem stride_step
    (delayed : 1 ≤ plan.shortestDelay)
    (serves : state.admission.Serves state.phase)
    (unassigned : state.admission.assigned = []) :
    Stride plan state (state.step plan) := by
  by_cases canAct : state.CanAct
  · unfold step
    split_ifs with canDrive
    · exact stride_drive delayed unassigned canDrive
    · have some : state.ready ≠ [] := canAct.resolve_left canDrive
      have inside : plan.order state.turns % state.ready.length < state.ready.length :=
        Nat.mod_lt _ (List.length_pos_iff.mpr some)
      have present := mem_ready.mp (List.getElem_mem inside)
      simp only [List.getElem?_eq_getElem inside]
      exact stride_act delayed serves unassigned (by simpa using canDrive) present.1 present.2
  · rw [(step_of_not_canAct canAct plan).1]
    exact .advance canAct

end

end RunState

namespace RunPlan

open RunState

/-- What holds in the beginning, and is kept by every stride between two points of a test,
holds at every point. -/
theorem stride_induction
    {plan : RunPlan}
    {motive : RunState → Prop}
    (delayed : 1 ≤ plan.shortestDelay)
    (outset : motive plan.outset)
    (stride : ∀ steps, motive (plan.after steps) →
      Stride plan (plan.after steps) (plan.after (steps + 1)) →
      motive (plan.after (steps + 1)))
    (steps : Nat) :
    motive (plan.after steps) := by
  induction steps with
  | zero => exact outset
  | succ steps hypothesis =>
      by_cases stopped : (plan.after steps).isOver = true
      · rw [after_succ, if_pos stopped]
        exact hypothesis
      · apply stride steps hypothesis
        rw [after_succ, if_neg stopped]
        exact stride_step delayed (plan.inOrder_after steps).serves (plan.assigned_after steps)

end RunPlan
end TransitLoad
