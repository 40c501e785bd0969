import Mathlib.Data.Finset.Lattice.Fold
import TransitLoad.Proofs.QueueRefinement
import TransitLoad.Proofs.Strides

/-!
# The peak of a queue

The driver acts before the walkers whenever it can.  When a customer comes, those that
finish at this very moment still hold their slots; if a slot is free nevertheless, it is
taken at once, and otherwise the next one that comes back, with all others still in use.
The most slots in use are therefore known from the queue alone, whatever the order in which
walkers act.
-/

namespace TransitLoad

namespace Queue

/-- How many customers before some customer are still there when it comes, those that
finish at that moment included. -/
noncomputable def company (queue : Queue) (customer : Nat) : Nat :=
  (List.range customer).countP fun earlier => queue.arrival customer ≤ queue.finish earlier

/-- How many slots are in use when a customer is admitted, its own included. -/
noncomputable def inUseAt (queue : Queue) (customer : Nat) : Nat :=
  min queue.capacity (queue.company customer + 1)

/-- The most slots in use when one of the first customers is admitted. -/
noncomputable def peak (queue : Queue) (customers : Nat) : Nat :=
  (Finset.range customers).sup queue.inUseAt

section

variable {queue : Queue}

theorem peak_succ (queue : Queue) (customers : Nat) :
    queue.peak (customers + 1) = max (queue.peak customers) (queue.inUseAt customers) := by
  rw [peak, Finset.range_add_one, Finset.sup_insert, sup_comm]
  rfl

theorem peak_mono
    (queue : Queue)
    (le : fewer ≤ more) :
    queue.peak fewer ≤ queue.peak more :=
  Finset.sup_mono (Finset.range_subset_range.mpr le)

theorem admission_le_start (queue : Queue) (customer : Nat) :
    queue.admission customer ≤ queue.start customer := by
  rw [start_eq]
  exact Nat.le_add_right _ _

/-- No customer is admitted before the one that came before it has started. -/
theorem start_le_admission_succ
    (capacityPos : 0 < queue.capacity)
    (customer : Nat) :
    queue.start customer ≤ queue.admission (customer + 1) :=
  (admission_isLeast capacityPos (customer + 1)).1.1

/-- No customer is admitted before the one that came before it. -/
theorem admission_monotone (capacityPos : 0 < queue.capacity) : Monotone queue.admission :=
  monotone_nat_of_le_succ fun customer =>
    (queue.admission_le_start customer).trans (start_le_admission_succ capacityPos customer)

/-- The customers admitted before a moment are the first ones. -/
theorem lt_iff_admission_lt
    (capacityPos : 0 < queue.capacity)
    (early : ∀ customer < customers, queue.admission customer < moment)
    (late : moment ≤ queue.admission customers)
    (customer : Nat) :
    customer < customers ↔ queue.admission customer < moment := by
  refine ⟨early customer, fun admitted => ?_⟩
  by_contra ge
  exact absurd (late.trans (admission_monotone capacityPos (Nat.not_lt.mp ge)))
    (Nat.not_le.mpr admitted)

end

end Queue

namespace RunState

/-- The peak of a test is that of the queue for the customers admitted so far. -/
def Peaks (plan : RunPlan) (state : RunState) : Prop :=
  match state.phase with
  | .asking =>
      state.admission.peak = plan.queue.peak state.spawned ∧
        (state.admission.available = 0 ∨
          state.now = plan.queue.arrival state.spawned ∧
            ∀ walk ∈ state.ended, walk.endedAt < state.now)
  | .waiting =>
      state.admission.peak = plan.queue.peak state.spawned ∧
        plan.queue.capacity ≤ plan.queue.company state.spawned
  | .delaying wakesAt =>
      state.admission.peak = plan.queue.peak (state.spawned + 1) ∧
        plan.queue.admission state.spawned < plan.deadline ∧
        ∀ walk ∈ state.ended, walk.endedAt < wakesAt
  | .finished =>
      ∃ customers, state.admission.peak = plan.queue.peak customers ∧
        ∀ customer, customer < customers ↔ plan.queue.admission customer < plan.deadline
  | .broken _ => True

section

variable {plan : RunPlan} {state state' : RunState}

/-! ## Walkers that are still there -/

/-- Walkers under way are still there when the next customer comes. -/
theorem OnSchedule.active_le_company
    (onSchedule : OnSchedule plan state)
    (fixed : plan.api.IsFixed)
    (wellKept : WellKept plan state journal)
    (came : plan.queue.arrival state.spawned ≤ state.now) :
    state.active.length ≤ plan.queue.company state.spawned := by
  have all : state.active.countP (fun walk =>
      plan.queue.arrival state.spawned ≤ plan.queue.finish walk.walker) =
      state.active.length := by
    rw [List.countP_eq_length]
    intro walk present
    rw [decide_eq_true_eq]
    calc
      plan.queue.arrival state.spawned ≤ state.now := came
      _ ≤ walk.wakesAt := wellKept.timely.walkers walk present
      _ ≤ plan.queue.finish walk.walker :=
        onSchedule.wakesAt_le_finish fixed wellKept.chronicle present
  rw [Queue.company, wellKept.enrolled.countP_range, all]
  exact Nat.le_add_right _ _

/-- Only walkers under way are still there if all others ended before the next customer
came. -/
theorem OnSchedule.company_le_active
    (onSchedule : OnSchedule plan state)
    (fixed : plan.api.IsFixed)
    (wellKept : WellKept plan state journal)
    (gone : ∀ walk ∈ state.ended, walk.endedAt < plan.queue.arrival state.spawned) :
    plan.queue.company state.spawned ≤ state.active.length := by
  have none : state.ended.countP (fun walk =>
      plan.queue.arrival state.spawned ≤ plan.queue.finish walk.walker) = 0 := by
    rw [List.countP_eq_zero]
    intro walk present
    rw [decide_eq_true_eq, ← onSchedule.endedAt_eq_finish fixed wellKept.chronicle present]
    exact Nat.not_le.mpr (gone walk present)
  rw [Queue.company, wellKept.enrolled.countP_range, none, Nat.add_zero]
  exact List.countP_le_length

/-- While the driver asks, every slot is free or held by a walker under way. -/
theorem WellKept.available_add_active
    (wellKept : WellKept plan state journal)
    (asking : state.phase = .asking) :
    state.admission.available + state.active.length = plan.queue.capacity := by
  have assigned := (wellKept.serves.of_waiting_nil (by simp [asking])).2
  have total := wellKept.accounted.unheld_eq
  rwa [Admission.unheld, assigned, asking, wellKept.accounted.capacity_eq] at total

/-- A driver that finds no slot free has as many walkers before it as there are slots. -/
theorem OnSchedule.capacity_le_company
    (onSchedule : OnSchedule plan state)
    (fixed : plan.api.IsFixed)
    (wellKept : WellKept plan state journal)
    (asking : state.phase = .asking)
    (full : state.admission.available = 0) :
    plan.queue.capacity ≤ plan.queue.company state.spawned := by
  have total := wellKept.available_add_active asking
  rw [full, Nat.zero_add] at total
  rw [← total]
  exact onSchedule.active_le_company fixed wellKept (onSchedule.driver.pending (.inl asking)).1

/-- A driver that finds a slot free when a customer comes takes one besides those of the
walkers under way. -/
theorem OnSchedule.inUseAt_eq
    (onSchedule : OnSchedule plan state)
    (fixed : plan.api.IsFixed)
    (wellKept : WellKept plan state journal)
    (asking : state.phase = .asking)
    (free : 0 < state.admission.available)
    (came : state.now = plan.queue.arrival state.spawned)
    (gone : ∀ walk ∈ state.ended, walk.endedAt < state.now) :
    state.admission.take.inUse = plan.queue.inUseAt state.spawned := by
  have total := wellKept.available_add_active asking
  have atLeast := onSchedule.active_le_company fixed wellKept came.ge
  have atMost := onSchedule.company_le_active fixed wellKept (came ▸ gone)
  have capacity : state.admission.capacity = plan.queue.capacity :=
    wellKept.accounted.capacity_eq
  simp only [Queue.inUseAt, Admission.inUse, Admission.take, Admission.notePeak]
  omega

/-! ## Strides -/

/-- Walkers end before a delay that begins now is over. -/
theorem OnSchedule.endedAt_lt_wakesAt
    (onSchedule : OnSchedule plan state)
    (delayed : 1 ≤ plan.shortestDelay)
    (present : walk ∈ state.ended) :
    walk.endedAt <
      state.now + (plan.settings.spawnDelay.drawn state.generator).waitMilliseconds := by
  have past := onSchedule.past walk present
  have lasting := shortestDelay_le_drawn plan state.generator
  omega

/-- After a tick the driver asks as it did before, or finds all slots taken. -/
theorem Peaks.tick
    (peaks : state.Peaks plan)
    (wellKept : WellKept plan state journal)
    (unassigned : state.admission.assigned = [])
    (idle : state.phase = .asking ∨ state.phase = .waiting) :
    (state.tick plan).Peaks plan := by
  have serves := wellKept.serves
  simp only [Peaks, RunState.tick, note, Admission.peak_withdraw]
  rcases idle with asking | waiting
  · obtain ⟨nobody, none⟩ := serves.of_waiting_nil (by simp [asking])
    rw [Peaks, asking] at peaks
    simpa [Admission.withdraw, nobody, none] using peaks
  · obtain ⟨_, full⟩ := (waiting ▸ serves).queued_of_unassigned unassigned
    rw [Peaks, waiting] at peaks
    exact ⟨peaks.1, .inl (by simpa [Admission.withdraw, unassigned] using full)⟩

/-- A driver that takes a free slot takes it when the customer comes. -/
theorem Peaks.take
    (peaks : state.Peaks plan)
    (fixed : plan.api.IsFixed)
    (valid : plan.settings.IsValid)
    (delayed : 1 ≤ plan.shortestDelay)
    (wellKept : WellKept plan state journal)
    (onSchedule : OnSchedule plan state)
    (asking : state.phase = .asking)
    (early : state.now < state.admission.deadline)
    (free : 0 < state.admission.available) :
    ({ state with admission := state.admission.take }.hold plan).Peaks plan := by
  rw [Peaks, asking] at peaks
  obtain ⟨peak, full | ⟨came, gone⟩⟩ := peaks
  · exact absurd full free.ne'
  · have inUse := onSchedule.inUseAt_eq fixed wellKept asking free came gone
    have admitted := onSchedule.admission_eq fixed valid wellKept (.inl asking)
      (Nat.add_pos_left free _)
    have taken : state.admission.take.peak = plan.queue.peak (state.spawned + 1) := by
      rw [Queue.peak_succ, ← inUse, ← peak]
      rfl
    have inTime : plan.queue.admission state.spawned < plan.deadline := by
      rw [← wellKept.accounted.deadline_eq]
      exact admitted.trans_lt early
    exact ⟨taken, inTime, fun walk present => onSchedule.endedAt_lt_wakesAt delayed present⟩

/-- A driver that takes over the slot of a walker has all slots in use. -/
theorem Peaks.relieve
    {walk : ActiveWalk}
    (peaks : state.Peaks plan)
    (fixed : plan.api.IsFixed)
    (valid : plan.settings.IsValid)
    (delayed : 1 ≤ plan.shortestDelay)
    (wellKept : WellKept plan state journal)
    (onSchedule : OnSchedule plan state)
    (unassigned : state.admission.assigned = [])
    (waiting : state.phase = .waiting)
    (early : state.now < state.admission.deadline)
    (action : Action plan state deeds (state.retired walk events result))
    (assigned : driverClient ∈ (state.retired walk events result).admission.assigned) :
    ({ state.retired walk events result with
      admission :=
        (state.retired walk events result).admission.collect driverClient }.hold plan).Peaks
      plan := by
  have wellKept' := wellKept.act action
  have onSchedule' := onSchedule.act fixed valid wellKept action
  have capacity : state.admission.capacity = plan.queue.capacity :=
    wellKept.accounted.capacity_eq
  rw [Peaks, waiting] at peaks
  obtain ⟨peak, busy⟩ := peaks
  have admitted := onSchedule'.admission_eq fixed valid wellKept' (.inr waiting)
    (Nat.add_pos_right _ (List.length_pos_of_mem assigned))
  obtain ⟨clients, full⟩ := (waiting ▸ wellKept.serves).queued_of_unassigned unassigned
  have taken : (state.admission.giveBack.collect driverClient).peak =
      plan.queue.peak (state.spawned + 1) := by
    rw [Queue.peak_succ, ← peak, Queue.inUseAt, min_eq_left (by omega), ← capacity]
    simp only [Admission.collect, Admission.notePeak, Admission.inUse, Admission.giveBack,
      full, clients, Nat.sub_zero]
  have inTime : plan.queue.admission state.spawned < plan.deadline := by
    rw [← wellKept.accounted.deadline_eq]
    exact admitted.trans_lt early
  exact ⟨taken, inTime, fun walk present => onSchedule'.endedAt_lt_wakesAt delayed present⟩

/-- A driver that finds the deadline passed has admitted all customers before it. -/
theorem OnSchedule.lt_spawned_iff_admission_lt
    (onSchedule : OnSchedule plan state)
    (valid : plan.settings.IsValid)
    (accounted : state.Accounted plan)
    (idle : state.phase = .asking ∨ state.phase = .waiting)
    (late : state.admission.deadline ≤ state.now)
    (customer : Nat) :
    customer < state.spawned ↔ plan.queue.admission customer < plan.deadline := by
  refine Queue.lt_iff_admission_lt valid.concurrency_pos (fun earlier lt => ?_)
    (onSchedule.deadline_le_admission valid accounted idle late) customer
  exact (plan.queue.admission_le_start earlier).trans_lt (onSchedule.early earlier lt)

/-- A driver that finds its delay over too late has admitted all customers before the
deadline, the last of them in vain. -/
theorem OnSchedule.le_spawned_iff_admission_lt
    (onSchedule : OnSchedule plan state)
    (valid : plan.settings.IsValid)
    (wellKept : WellKept plan state journal)
    (admitted : plan.queue.admission state.spawned < plan.deadline)
    (delaying : state.phase = .delaying wakesAt)
    (late : state.admission.deadline ≤ state.now)
    (customer : Nat) :
    customer < state.spawned + 1 ↔ plan.queue.admission customer < plan.deadline := by
  apply Queue.lt_iff_admission_lt valid.concurrency_pos
  · intro earlier lt
    exact (Queue.admission_monotone valid.concurrency_pos (Nat.le_of_lt_succ lt)).trans_lt admitted
  · have wakes := onSchedule.driver
    rw [OnTime, delaying] at wakes
    rw [wellKept.accounted.deadline_eq] at late
    calc
      plan.deadline ≤ state.now := late
      _ ≤ wakesAt := wellKept.timely.delay delaying
      _ = plan.queue.start state.spawned := wakes
      _ ≤ plan.queue.admission (state.spawned + 1) :=
        Queue.start_le_admission_succ valid.concurrency_pos _

/-- A walker is started when the next customer comes. -/
theorem Peaks.start
    (peaks : state.Peaks plan)
    (wellKept : WellKept plan state journal)
    (onSchedule : OnSchedule plan state)
    (delaying : state.phase = .delaying wakesAt)
    (elapsed : wakesAt ≤ state.now) :
    (state.startWalker plan).Peaks plan := by
  have wakes := onSchedule.driver
  rw [OnTime, delaying] at wakes
  rw [Peaks, delaying] at peaks
  obtain ⟨peak, _, gone⟩ := peaks
  have now : state.now = wakesAt := (wellKept.timely.delay delaying).antisymm elapsed
  exact ⟨peak, .inr ⟨now.trans wakes, fun walk present => now ▸ gone walk present⟩⟩

/-- A walker that ends while the driver cannot act does so before the driver goes on. -/
theorem Peaks.retire
    (peaks : state.Peaks plan)
    (cannotDrive : state.canDrive = false)
    (elsewhere : state.phase ≠ .waiting)
    (walk : ActiveWalk)
    (events : List (Activity.Event WalkNote))
    (result : Except Fault WalkOutcome) :
    (state.retired walk events result).Peaks plan := by
  unfold Peaks at peaks ⊢
  simp only [retired, recordEvents, Admission.peak_giveBack]
  cases phase : state.phase with
  | asking => simp [canDrive, phase] at cannotDrive
  | waiting => exact absurd phase elsewhere
  | delaying wakesAt =>
      rw [phase] at peaks
      obtain ⟨peak, admitted, gone⟩ := peaks
      have before : state.now < wakesAt := by simpa [canDrive, phase] using cannotDrive
      exact ⟨peak, admitted, List.forall_mem_cons.mpr ⟨before, gone⟩⟩
  | finished =>
      rw [phase] at peaks
      exact peaks
  | broken => trivial

theorem Peaks.advance
    (peaks : state.Peaks plan)
    (nobody : ¬state.CanAct) :
    state.advance.Peaks plan := by
  rw [advance_eq]
  unfold Peaks at peaks ⊢
  cases phase : state.phase with
  | asking => exact absurd (.inl (by simp [canDrive, phase])) nobody
  | waiting | delaying | finished =>
      rw [phase] at peaks
      exact peaks
  | broken => trivial

/-- Every stride keeps the peak where the queue has it. -/
theorem Peaks.stride
    (peaks : state.Peaks plan)
    (fixed : plan.api.IsFixed)
    (valid : plan.settings.IsValid)
    (delayed : 1 ≤ plan.shortestDelay)
    (wellKept : WellKept plan state journal)
    (onSchedule : OnSchedule plan state)
    (unassigned : state.admission.assigned = [])
    (stride : Stride plan state state') :
    state'.Peaks plan := by
  cases stride with
  | tick idle => exact peaks.tick wellKept unassigned idle
  | take asking early free =>
      exact peaks.take fixed valid delayed wellKept onSchedule asking early free
  | queue asking _ full =>
      rw [Peaks, asking] at peaks
      exact ⟨peaks.1, onSchedule.capacity_le_company fixed wellKept asking full⟩
  | refuse asking late =>
      rw [Peaks, asking] at peaks
      exact ⟨state.spawned, peaks.1, onSchedule.lt_spawned_iff_admission_lt valid
        wellKept.accounted (.inl asking) late⟩
  | withdraw waiting late =>
      rw [Peaks, waiting] at peaks
      refine ⟨state.spawned, ?_, onSchedule.lt_spawned_iff_admission_lt valid
        wellKept.accounted (.inr waiting) late⟩
      exact (Admission.peak_withdraw _ _).trans peaks.1
  | start delaying elapsed => exact peaks.start wellKept onSchedule delaying elapsed
  | giveUp delaying elapsed late =>
      rw [Peaks, delaying] at peaks
      refine ⟨state.spawned + 1, (Admission.peak_giveBack _).trans peaks.1, ?_⟩
      exact onSchedule.le_spawned_iff_admission_lt valid wellKept peaks.2.1 delaying late
  | carry => exact peaks
  | retire cannotDrive elsewhere => exact peaks.retire cannotDrive elsewhere _ _ _
  | relieve waiting early action assigned =>
      exact peaks.relieve fixed valid delayed wellKept onSchedule unassigned waiting early action
        assigned
  | advance nobody => exact peaks.advance nobody

theorem Peaks.outset (plan : RunPlan) : plan.outset.Peaks plan := by
  refine ⟨rfl, .inr ⟨?_, by simp [RunPlan.outset, initial]⟩⟩
  rw [Queue.arrival.eq_def]
  rfl

end

end RunState

namespace RunPlan

open RunState

/-- Every delay takes a millisecond if none may be shorter. -/
theorem one_le_shortestDelay
    {plan : RunPlan}
    (delayed : 1 ≤ plan.settings.minSpawnDelay.toNat) :
    1 ≤ plan.shortestDelay :=
  le_min (by decide) delayed

theorem peaks_after
    {plan : RunPlan}
    (fixed : plan.api.IsFixed)
    (valid : plan.settings.IsValid)
    (delayed : 1 ≤ plan.settings.minSpawnDelay.toNat)
    (steps : Nat) :
    (plan.after steps).Peaks plan := by
  have lasting := one_le_shortestDelay delayed
  refine stride_induction lasting (.outset plan) (fun steps peaks stride => ?_) steps
  exact peaks.stride fixed valid lasting (plan.wellKept_after steps)
    (onSchedule_after fixed valid steps) (plan.assigned_after steps) stride

/-- The peak of a test is that of its queue for the customers admitted before the
deadline, whatever the order in which walkers act. -/
theorem exists_peak_eq
    {plan : RunPlan}
    (fixed : plan.api.IsFixed)
    (delayed : 1 ≤ plan.settings.minSpawnDelay.toNat)
    (ends : plan.finalState = .ok state) :
    ∃ customers, state.summary.peakConcurrency = plan.queue.peak customers ∧
      ∀ customer, customer < customers ↔ plan.queue.admission customer < plan.deadline := by
  obtain ⟨valid, rfl, stopped⟩ := isOver_of_finalState ends
  have peaks := peaks_after fixed valid delayed plan.stepBound
  rwa [Peaks, ((plan.inOrder_after _).finished stopped).1] at peaks

end RunPlan
end TransitLoad
