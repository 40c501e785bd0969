import Mathlib.Data.List.Nodup
import TransitLoad.Proofs.Course

/-!
# Slots and their holders

Every slot in use is held by a walker under way or by the driver, and every walker
that was started is under way or has ended.  This holds whatever the API answers, in
whichever order walkers act, and however they end.
-/

namespace TransitLoad

namespace Admission

/-- The slots that nobody holds, those assigned to a client included. -/
def unheld (admission : Admission) : Nat := admission.available + admission.assigned.length

@[simp] theorem capacity_giveBack (admission : Admission) :
    admission.giveBack.capacity = admission.capacity := by
  unfold giveBack
  split <;> rfl

@[simp] theorem deadline_giveBack (admission : Admission) :
    admission.giveBack.deadline = admission.deadline := by
  unfold giveBack
  split <;> rfl

@[simp] theorem peak_giveBack (admission : Admission) :
    admission.giveBack.peak = admission.peak := by
  unfold giveBack
  split <;> rfl

@[simp] theorem unheld_giveBack (admission : Admission) :
    admission.giveBack.unheld = admission.unheld + 1 := by
  unfold giveBack unheld
  split
  · simp only
    omega
  · simp only [List.length_append, List.length_singleton]
    omega

theorem available_le_giveBack (admission : Admission) :
    admission.available ≤ admission.giveBack.available := by
  unfold giveBack
  split
  · exact Nat.le_succ _
  · exact Nat.le_refl _

@[simp] theorem capacity_withdraw (admission : Admission) (client : Nat) :
    (admission.withdraw client).capacity = admission.capacity := by
  unfold withdraw
  split_ifs
  · rw [capacity_giveBack]
  · rfl

@[simp] theorem deadline_withdraw (admission : Admission) (client : Nat) :
    (admission.withdraw client).deadline = admission.deadline := by
  unfold withdraw
  split_ifs
  · rw [deadline_giveBack]
  · rfl

@[simp] theorem peak_withdraw (admission : Admission) (client : Nat) :
    (admission.withdraw client).peak = admission.peak := by
  unfold withdraw
  split_ifs
  · rw [peak_giveBack]
  · rfl

@[simp] theorem unheld_withdraw (admission : Admission) (client : Nat) :
    (admission.withdraw client).unheld = admission.unheld := by
  unfold withdraw
  split_ifs with assigned
  · have positive := List.length_pos_of_mem assigned
    rw [unheld_giveBack]
    simp only [unheld, List.length_erase_of_mem assigned]
    omega
  · rfl

theorem available_le_withdraw (admission : Admission) (client : Nat) :
    admission.available ≤ (admission.withdraw client).available := by
  unfold withdraw
  split_ifs with assigned
  · exact available_le_giveBack { admission with assigned := admission.assigned.erase client }
  · exact Nat.le_refl _

/-- No more slots are in use where more are available. -/
theorem inUse_le_inUse
    {before after : Admission}
    (capacityEq : after.capacity = before.capacity)
    (availableLe : before.available ≤ after.available) :
    after.inUse ≤ before.inUse := by
  rw [inUse, inUse, capacityEq]
  omega

end Admission

/-- How many slots the driver holds. -/
def DriverPhase.slots : DriverPhase → Nat
  | .delaying _ => 1
  | _ => 0

/-- What an admission with the driver as its only client looks like. -/
inductive Admission.Serves (admission : Admission) : DriverPhase → Prop where
  /-- The driver waits, and no slot is free. -/
  | queued
      (waiting : admission.waiting = [RunState.driverClient])
      (assigned : admission.assigned = [])
      (full : admission.available = 0) : Serves admission .waiting
  /-- The driver has yet to take up a slot. -/
  | assigned
      (waiting : admission.waiting = [])
      (assigned : admission.assigned = [RunState.driverClient]) : Serves admission .waiting
  /-- Nobody waits. -/
  | idle
      (elsewhere : phase ≠ .waiting)
      (waiting : admission.waiting = [])
      (assigned : admission.assigned = []) : Serves admission phase

namespace Admission

theorem Serves.of_waiting_nil
    {admission : Admission}
    (serves : admission.Serves phase)
    (elsewhere : phase ≠ .waiting) :
    admission.waiting = [] ∧ admission.assigned = [] := by
  cases serves with
  | queued => exact absurd rfl elsewhere
  | assigned => exact absurd rfl elsewhere
  | idle _ waiting assigned => exact ⟨waiting, assigned⟩

/-- Once the driver has withdrawn, nobody waits. -/
theorem Serves.withdraw
    {admission : Admission}
    (serves : admission.Serves phase)
    (elsewhere : phase' ≠ .waiting) :
    (admission.withdraw RunState.driverClient).Serves phase' := by
  apply Serves.idle elsewhere
  all_goals
    cases serves with
    | queued waiting assigned => simp [Admission.withdraw, waiting, assigned]
    | assigned waiting assigned => simp [Admission.withdraw, giveBack, waiting, assigned]
    | idle _ waiting assigned => simp [Admission.withdraw, waiting, assigned]

/-- A slot that is given back is assigned to the driver if it waits. -/
theorem Serves.giveBack
    {admission : Admission}
    (serves : admission.Serves phase) :
    admission.giveBack.Serves phase := by
  cases serves with
  | queued waiting assigned =>
      apply Serves.assigned <;> simp [Admission.giveBack, waiting, assigned]
  | assigned waiting assigned =>
      apply Serves.assigned <;> simp [Admission.giveBack, waiting, assigned]
  | idle elsewhere waiting assigned =>
      apply Serves.idle elsewhere <;> simp [Admission.giveBack, waiting, assigned]

/-- A slot is only assigned to a driver that waits. -/
theorem Serves.waiting_of_mem
    {admission : Admission}
    (serves : admission.Serves phase)
    (present : RunState.driverClient ∈ admission.assigned) :
    phase = .waiting ∧ admission.waiting = [] ∧
      admission.assigned = [RunState.driverClient] := by
  cases serves with
  | queued _ assigned => simp [assigned] at present
  | assigned waiting assigned => exact ⟨rfl, waiting, assigned⟩
  | idle _ _ assigned => simp [assigned] at present

/-- A driver that waits and has not been assigned a slot is the only one that waits, and no
slot is free. -/
theorem Serves.queued_of_unassigned
    {admission : Admission}
    (serves : admission.Serves .waiting)
    (unassigned : admission.assigned = []) :
    admission.waiting = [RunState.driverClient] ∧ admission.available = 0 := by
  cases serves with
  | queued waiting _ full => exact ⟨waiting, full⟩
  | assigned _ assigned => simp [assigned] at unassigned
  | idle elsewhere => exact absurd rfl elsewhere

/-- A driver that is yet to be given a slot or to take it up waits. -/
theorem Serves.waiting_of_pending
    {admission : Admission}
    (serves : admission.Serves phase)
    (pending : phase = .waiting ∨ RunState.driverClient ∈ admission.assigned) :
    phase = .waiting := by
  rcases pending with waiting | assigned
  · exact waiting
  · exact (serves.waiting_of_mem assigned).1

end Admission

theorem RunPlan.deadline_pos
    (plan : RunPlan)
    (valid : plan.settings.IsValid) :
    0 < plan.deadline :=
  Nat.mul_pos valid.seconds_pos (by decide)

namespace RunState

/-! ## Walkers -/

/-- Every walker that was started is either under way or has ended. -/
def Enrolled (state : RunState) : Prop :=
  (state.active.map ActiveWalk.walker ++ state.ended.map EndedWalk.walker).Perm
    (List.range state.spawned)

namespace Enrolled

theorem nodup
    {state : RunState}
    (enrolled : state.Enrolled) :
    (state.active.map ActiveWalk.walker).Nodup :=
  (enrolled.nodup_iff.mpr List.nodup_range).of_append_left

theorem count_eq
    {state : RunState}
    (enrolled : state.Enrolled) :
    state.active.length + state.ended.length = state.spawned := by
  have same := List.Perm.length_eq enrolled
  rwa [List.length_append, List.length_map, List.length_map, List.length_range] at same

theorem walker_lt
    {state : RunState}
    {walk : ActiveWalk}
    (enrolled : state.Enrolled)
    (present : walk ∈ state.active) :
    walk.walker < state.spawned := by
  have listed := List.mem_append_left (state.ended.map EndedWalk.walker)
    (List.mem_map_of_mem (f := ActiveWalk.walker) present)
  exact List.mem_range.mp ((List.Perm.mem_iff enrolled).mp listed)

/-- No walker is both under way and at its end. -/
theorem walker_ne
    {state : RunState}
    {walk : ActiveWalk}
    {other : EndedWalk}
    (enrolled : state.Enrolled)
    (present : walk ∈ state.active)
    (otherPresent : other ∈ state.ended) :
    walk.walker ≠ other.walker :=
  (List.nodup_append.mp (enrolled.nodup_iff.mpr List.nodup_range)).2.2
    _ (List.mem_map_of_mem present) _ (List.mem_map_of_mem otherPresent)

/-- Two walks under way are the same if they have the same number. -/
theorem eq_of_walker_eq
    {state : RunState}
    {walk other : ActiveWalk}
    (enrolled : state.Enrolled)
    (present : walk ∈ state.active)
    (otherPresent : other ∈ state.active)
    (same : walk.walker = other.walker) :
    walk = other :=
  List.inj_on_of_nodup_map enrolled.nodup present otherPresent same

theorem start
    {state : RunState}
    (enrolled : state.Enrolled)
    (plan : RunPlan) :
    (state.startWalker plan).Enrolled := by
  unfold Enrolled startWalker
  simp only [List.map_append, List.map_cons, List.map_nil, List.range_succ]
  refine List.Perm.trans ?_ (List.Perm.append_right [state.spawned] enrolled)
  rw [List.append_assoc, List.append_assoc]
  exact List.Perm.append_left _ List.perm_append_comm

theorem carry
    {state : RunState}
    (enrolled : state.Enrolled)
    (walk : ActiveWalk)
    (events : List (Activity.Event WalkNote))
    (remaining : RemainingWalk) :
    (state.carried walk events remaining).Enrolled := by
  have same : (state.carried walk events remaining).active.map ActiveWalk.walker =
      state.active.map ActiveWalk.walker := by
    simp only [carried, recordEvents, List.map_map]
    apply List.map_congr_left
    intro other _
    simp only [Function.comp_apply]
    split_ifs <;> rfl
  unfold Enrolled
  rw [same]
  exact enrolled

/-- The numbers of the walkers still under way after one has ended. -/
theorem walkers_retired
    {state : RunState}
    (enrolled : state.Enrolled)
    (walk : ActiveWalk)
    (events : List (Activity.Event WalkNote))
    (result : Except Fault WalkOutcome) :
    (state.retired walk events result).active.map ActiveWalk.walker =
      (state.active.map ActiveWalk.walker).erase walk.walker := by
  rw [enrolled.nodup.erase_eq_filter, List.filter_map]
  simp only [retired, recordEvents]
  congr 1
  apply List.filter_congr
  intro other _
  simp only [Function.comp_apply, ne_eq, decide_not, bne, Bool.not_inj_iff]
  rfl

theorem retire
    {state : RunState}
    {walk : ActiveWalk}
    (enrolled : state.Enrolled)
    (present : walk ∈ state.active)
    (events : List (Activity.Event WalkNote))
    (result : Except Fault WalkOutcome) :
    (state.retired walk events result).Enrolled := by
  have listed := List.mem_map_of_mem (f := ActiveWalk.walker) present
  have moved := (List.perm_cons_erase listed).symm
  unfold Enrolled
  rw [enrolled.walkers_retired walk events result]
  refine List.Perm.trans ?_ enrolled
  refine List.Perm.trans List.perm_middle ?_
  exact List.Perm.append_right _ moved

theorem act
    {state : RunState}
    (enrolled : state.Enrolled)
    (action : Action plan state deeds state') :
    state'.Enrolled := by
  cases action with
  | tick | take | queue | collect | refuse | withdraw | giveUp => exact enrolled
  | start => exact enrolled.start plan
  | carry => exact enrolled.carry _ _ _
  | retire present => exact enrolled.retire present _ _

end Enrolled

/-! ## Slots -/

/-- The admission always serves the driver as its only client. -/
theorem serves_act
    (serves : state.admission.Serves state.phase)
    (action : Action plan state deeds state') :
    state'.admission.Serves state'.phase := by
  cases action with
  | tick => exact serves.withdraw nofun
  | take asking =>
      obtain ⟨waiting, assigned⟩ := serves.of_waiting_nil (by simp [asking])
      exact .idle nofun waiting assigned
  | queue asking _ full =>
      obtain ⟨waiting, assigned⟩ := serves.of_waiting_nil (by simp [asking])
      exact .queued (by simp [Admission.enqueue, waiting]) assigned full
  | collect _ present =>
      obtain ⟨_, waiting, assigned⟩ := serves.waiting_of_mem present
      refine .idle nofun waiting ?_
      simp [hold, Admission.collect, Admission.notePeak, assigned]
  | refuse asking =>
      obtain ⟨waiting, assigned⟩ := serves.of_waiting_nil (by simp [asking])
      exact .idle nofun waiting assigned
  | withdraw => exact serves.withdraw nofun
  | start delaying =>
      obtain ⟨waiting, assigned⟩ := serves.of_waiting_nil (by simp [delaying])
      exact .idle nofun waiting assigned
  | giveUp delaying =>
      obtain ⟨waiting, assigned⟩ := serves.giveBack.of_waiting_nil (by simp [delaying])
      exact .idle nofun waiting assigned
  | carry => exact serves
  | retire => exact serves.giveBack

/-- Every slot is free, assigned, held by a walker under way, or held by the driver,
and the peak is the most slots that were in use. -/
structure Accounted (plan : RunPlan) (state : RunState) : Prop where
  capacity_eq : state.admission.capacity = plan.settings.maxConcurrency.toNat
  deadline_eq : state.admission.deadline = plan.deadline
  unheld_eq : state.admission.unheld + state.active.length + state.phase.slots =
    state.admission.capacity
  inUse_le_peak : state.admission.inUse ≤ state.admission.peak
  peak_le : state.admission.peak ≤ state.admission.capacity
  peak_le_spawned : state.admission.peak ≤ state.spawned + 1

namespace Accounted

/-- Slots that are given back or handed over are still accounted for. -/
theorem moved
    {state state' : RunState}
    (accounted : Accounted plan state)
    (capacityEq : state'.admission.capacity = state.admission.capacity)
    (deadlineEq : state'.admission.deadline = state.admission.deadline)
    (peakEq : state'.admission.peak = state.admission.peak)
    (availableLe : state.admission.available ≤ state'.admission.available)
    (totalEq : state'.admission.unheld + state'.active.length + state'.phase.slots =
      state.admission.unheld + state.active.length + state.phase.slots)
    (spawnedLe : state.spawned ≤ state'.spawned) :
    Accounted plan state' where
  capacity_eq := capacityEq.trans accounted.capacity_eq
  deadline_eq := deadlineEq.trans accounted.deadline_eq
  unheld_eq := by rw [totalEq, capacityEq, accounted.unheld_eq]
  inUse_le_peak := by
    rw [peakEq]
    exact (Admission.inUse_le_inUse capacityEq availableLe).trans accounted.inUse_le_peak
  peak_le := by
    rw [peakEq, capacityEq]
    exact accounted.peak_le
  peak_le_spawned := by
    rw [peakEq]
    exact accounted.peak_le_spawned.trans (Nat.add_le_add_right spawnedLe 1)

/-- A slot that the driver takes is accounted for. -/
theorem granted
    {state : RunState}
    {admission : Admission}
    (accounted : Accounted plan state)
    (enrolled : state.Enrolled)
    (idle : state.phase.slots = 0)
    (capacityEq : admission.capacity = state.admission.capacity)
    (deadlineEq : admission.deadline = state.admission.deadline)
    (peakEq : admission.peak = max state.admission.peak admission.inUse)
    (unheldEq : admission.available + 1 = state.admission.unheld)
    (assignedEq : admission.assigned = []) :
    Accounted plan ({ state with admission }.hold plan) := by
  have total := accounted.unheld_eq
  have peakLe := accounted.peak_le
  have peakLeSpawned := accounted.peak_le_spawned
  have walkers := enrolled.count_eq
  have unheld : admission.unheld = admission.available := by
    rw [Admission.unheld, assignedEq, List.length_nil, Nat.add_zero]
  have inUse : admission.inUse = admission.capacity - admission.available := rfl
  refine
    { capacity_eq := capacityEq.trans accounted.capacity_eq
      deadline_eq := deadlineEq.trans accounted.deadline_eq
      unheld_eq := ?_
      inUse_le_peak := ?_
      peak_le := ?_
      peak_le_spawned := ?_ }
  · simp only [hold, DriverPhase.slots]
    omega
  · simp only [hold]
    omega
  · simp only [hold]
    omega
  · simp only [hold]
    omega

theorem act
    {state : RunState}
    (accounted : Accounted plan state)
    (enrolled : state.Enrolled)
    (serves : state.admission.Serves state.phase)
    (action : Action plan state deeds state') :
    Accounted plan state' := by
  cases action with
  | tick idle =>
      refine accounted.moved (by simp [tick, note]) (by simp [tick, note])
        (by simp [tick, note]) (Admission.available_le_withdraw _ _) ?_ (Nat.le_refl _)
      rcases idle with idle | idle <;> simp [tick, note, idle, DriverPhase.slots]
  | take asking _ free =>
      obtain ⟨_, assigned⟩ := serves.of_waiting_nil (by simp [asking])
      refine accounted.granted enrolled (by simp [asking, DriverPhase.slots]) rfl rfl rfl
        ?_ assigned
      simp only [Admission.take, Admission.notePeak, Admission.unheld, assigned,
        List.length_nil]
      omega
  | queue asking =>
      exact accounted.moved rfl rfl rfl (Nat.le_refl _)
        (by simp [asking, DriverPhase.slots, Admission.enqueue, Admission.unheld])
        (Nat.le_refl _)
  | collect _ present =>
      obtain ⟨waiting, _, assigned⟩ := serves.waiting_of_mem present
      refine accounted.granted enrolled (by simp [waiting, DriverPhase.slots]) rfl rfl rfl
        ?_ (by simp [Admission.collect, Admission.notePeak, assigned])
      simp [Admission.collect, Admission.notePeak, Admission.unheld, assigned]
  | refuse asking =>
      exact accounted.moved rfl rfl rfl (Nat.le_refl _)
        (by simp [finish, note, asking, DriverPhase.slots]) (Nat.le_refl _)
  | withdraw pending =>
      refine accounted.moved (by simp [finish, note]) (by simp [finish, note])
        (by simp [finish, note]) (Admission.available_le_withdraw _ _) ?_ (Nat.le_refl _)
      have waiting := serves.waiting_of_pending pending
      simp [finish, note, waiting, DriverPhase.slots]
  | start delaying =>
      refine accounted.moved rfl rfl rfl (Nat.le_refl _) ?_ (Nat.le_succ _)
      simp only [startWalker, delaying, DriverPhase.slots, List.length_append,
        List.length_singleton]
      omega
  | giveUp delaying =>
      refine accounted.moved (by simp [finish, note]) (by simp [finish, note])
        (by simp [finish, note]) (Admission.available_le_giveBack _) ?_ (Nat.le_refl _)
      simp only [finish, note, delaying, DriverPhase.slots, Admission.unheld_giveBack]
      omega
  | carry =>
      exact accounted.moved rfl rfl rfl (Nat.le_refl _)
        (by simp [carried, recordEvents]) (Nat.le_refl _)
  | retire present awake eventsEq yields instant =>
      rename_i walk events result
      have listed := List.mem_map_of_mem (f := ActiveWalk.walker) present
      have positive := List.length_pos_of_mem present
      have fewer := congrArg List.length (enrolled.walkers_retired walk events result)
      rw [List.length_erase_of_mem listed, List.length_map, List.length_map] at fewer
      refine accounted.moved (by simp [retired, recordEvents])
        (by simp [retired, recordEvents]) (by simp [retired, recordEvents])
        (Admission.available_le_giveBack _) ?_ (Nat.le_refl _)
      have held : (state.retired walk events result).admission.unheld =
          state.admission.unheld + 1 := Admission.unheld_giveBack _
      rw [held, fewer]
      simp only [retired, recordEvents]
      omega

end Accounted

/-- The slots of a test and its walkers are in order. -/
structure InOrder (plan : RunPlan) (state : RunState) : Prop where
  enrolled : state.Enrolled
  serves : state.admission.Serves state.phase
  accounted : state.Accounted plan
  /-- No draw of a delay ends in a fault. -/
  intact : ∀ fault, state.phase ≠ .broken fault

/-- Once a test is over, the driver has finished and no walker is under way. -/
theorem InOrder.finished
    {state : RunState}
    (inOrder : InOrder plan state)
    (stopped : state.isOver = true) :
    state.phase = .finished ∧ state.active = [] := by
  unfold isOver at stopped
  cases phase : state.phase with
  | finished => simpa [phase] using stopped
  | broken fault => exact absurd phase (inOrder.intact fault)
  | asking | waiting | delaying => simp [phase] at stopped

/-- Once a test is over, the walkers that ended are all that were started. -/
theorem InOrder.perm_ended
    {state : RunState}
    (inOrder : InOrder plan state)
    (stopped : state.isOver = true) :
    (state.ended.map EndedWalk.walker).Perm (List.range state.spawned) := by
  have enrolled := inOrder.enrolled
  rwa [Enrolled, (inOrder.finished stopped).2, List.map_nil, List.nil_append] at enrolled

theorem InOrder.act
    {state : RunState}
    (inOrder : InOrder plan state)
    (action : Action plan state deeds state') :
    InOrder plan state' where
  enrolled := inOrder.enrolled.act action
  serves := serves_act inOrder.serves action
  accounted := inOrder.accounted.act inOrder.enrolled inOrder.serves action
  intact := by
    intro fault
    cases action with
    | carry => exact inOrder.intact fault
    | retire => exact inOrder.intact fault
    | tick | take | queue | collect | refuse | withdraw | start | giveUp => nofun

/-- The clock alone changes when it moves on. -/
theorem advance_eq (state : RunState) :
    state.advance = { state with now := state.advance.now } := by
  unfold advance
  split <;> rfl

theorem InOrder.advance
    {state : RunState}
    (inOrder : InOrder plan state) :
    InOrder plan state.advance := by
  rw [advance_eq]
  exact ⟨inOrder.enrolled, inOrder.serves,
    inOrder.accounted.moved rfl rfl rfl (Nat.le_refl _) rfl (Nat.le_refl _), inOrder.intact⟩

theorem InOrder.outset (plan : RunPlan) : InOrder plan plan.outset where
  enrolled := List.Perm.refl _
  serves := .idle nofun rfl rfl
  accounted := {
    capacity_eq := rfl
    deadline_eq := rfl
    unheld_eq := rfl
    inUse_le_peak := Nat.le_of_eq (Nat.sub_self _)
    peak_le := Nat.zero_le _
    peak_le_spawned := Nat.zero_le _ }
  intact := nofun

/-- A driver that goes on waiting has no slot to take up. -/
def Settled (state : RunState) : Prop :=
  state.phase = .waiting → driverClient ∉ state.admission.assigned

theorem endDelay_settled (plan : RunPlan) (state : RunState) :
    (state.endDelay plan).Settled := by
  rcases Nat.lt_or_ge state.now state.admission.deadline with early | late
  · rw [endDelay_of_early early]
    nofun
  · rw [endDelay_of_late late]
    nofun

theorem heed_settled
    (plan : RunPlan)
    (state : RunState)
    {admission : Admission}
    {verdict : Verdict}
    (told : verdict = .mustWait → driverClient ∉ admission.assigned) :
    (state.heed plan admission verdict).Settled := by
  cases verdict with
  | granted =>
      rw [heed, beginDelay_eq]
      split_ifs
      · exact endDelay_settled plan _
      · nofun
  | refused => nofun
  | mustWait =>
      intro _
      exact told rfl

theorem askForSlot_settled
    {state : RunState}
    (unassigned : driverClient ∉ state.admission.assigned)
    (plan : RunPlan) :
    (state.askForSlot plan).Settled := by
  simp only [askForSlot, Admission.ask]
  split_ifs
  · exact heed_settled plan state (by rintro ⟨⟩)
  · exact heed_settled plan state fun _ => unassigned
  · exact heed_settled plan state (by rintro ⟨⟩)

theorem lookForSlot_settled (plan : RunPlan) (state : RunState) :
    (state.lookForSlot plan).Settled := by
  simp only [lookForSlot, Admission.resume]
  split_ifs with _ assigned
  · exact heed_settled plan state (by rintro ⟨⟩)
  · exact heed_settled plan state (by rintro ⟨⟩)
  · exact heed_settled plan state fun _ => assigned

theorem drive_settled
    {state : RunState}
    (unassigned : driverClient ∉ state.admission.assigned)
    (plan : RunPlan) :
    (state.drive plan).Settled := by
  unfold drive
  cases phase : state.phase with
  | asking =>
      simp only
      split_ifs
      · nofun
      · exact askForSlot_settled unassigned plan
  | waiting =>
      simp only
      split_ifs
      · nofun
      · exact lookForSlot_settled plan state
  | delaying wakesAt => exact endDelay_settled plan state
  | finished =>
      intro _
      exact unassigned
  | broken fault =>
      intro _
      exact unassigned

theorem act_settled
    {state : RunState}
    (unassigned : driverClient ∉ state.admission.assigned)
    (plan : RunPlan)
    (walk : ActiveWalk) :
    (state.act plan walk).Settled := by
  have recorded := carryOn_fst plan state walk.remaining
  unfold act
  generalize carryOn plan state walk.remaining = progress at recorded
  obtain ⟨after, progress⟩ := progress
  cases recorded
  cases progress with
  | waits wakesAt remaining =>
      intro _
      exact unassigned
  | ends result =>
      simp only [endWalk]
      split_ifs with assigned
      · exact lookForSlot_settled plan _
      · intro _
        exact assigned

/-- A step leaves no slot that waits to be taken up, if there was none before it. -/
theorem step_assigned
    {state : RunState}
    (serves : (state.step plan).admission.Serves (state.step plan).phase)
    (unassigned : state.admission.assigned = []) :
    (state.step plan).admission.assigned = [] := by
  have notMem : driverClient ∉ state.admission.assigned := by simp [unassigned]
  have settled : (state.step plan).Settled := by
    unfold step
    split_ifs
    · exact drive_settled notMem plan
    · simp only
      split
      · exact act_settled (by exact notMem) plan _
      · rw [advance_eq]
        intro _
        exact notMem
  unfold Settled at settled
  generalize (state.step plan).phase = phase at serves settled
  cases serves with
  | queued _ assigned => exact assigned
  | assigned _ assigned => exact absurd (by simp [assigned]) (settled rfl)
  | idle _ _ assigned => exact assigned

end RunState

namespace RunPlan

open RunState

/-- Slots and walkers are in order at every point of a test. -/
theorem inOrder_after (plan : RunPlan) (steps : Nat) : InOrder plan (plan.after steps) :=
  onward_induction (fun inOrder action => inOrder.act action)
    (fun inOrder _ _ => inOrder.advance) (Nat.zero_le steps) (.outset plan)

/-- The walkers that ended in a test are those that were started. -/
theorem mem_ended_of_finalState
    {plan : RunPlan}
    (ends : plan.finalState = .ok state) :
    walker ∈ state.ended.map EndedWalk.walker ↔ walker < state.spawned := by
  obtain ⟨_, rfl, stopped⟩ := isOver_of_finalState ends
  rw [((plan.inOrder_after _).perm_ended stopped).mem_iff, List.mem_range]

/-- Between two steps no slot waits to be taken up. -/
theorem assigned_after (plan : RunPlan) (steps : Nat) :
    (plan.after steps).admission.assigned = [] := by
  induction steps with
  | zero => rfl
  | succ steps hypothesis =>
      have serves := (plan.inOrder_after (steps + 1)).serves
      rw [after_succ] at serves ⊢
      split_ifs with stopped
      · exact hypothesis
      · rw [if_neg stopped] at serves
        exact step_assigned serves hypothesis

/-- A test of a second with one slot, whose only walker finds nothing. -/
def oneWalker : RunPlan where
  settings := { Settings.defaults with
    durationSeconds := 1
    maxConcurrency := 1
    minSpawnDelay := 600
    maxSpawnDelay := 600 }
  api := fun _ _ => ⟨.zero, .status 404⟩
  order := id

theorem oneWalker_isOver : (oneWalker.after 8).isOver = true := by decide +kernel

/-- A test of a second with one slot, whose walkers take longer than the delays between
them. -/
def slowWalkers : RunPlan where
  settings := { Settings.defaults with
    durationSeconds := 1
    maxConcurrency := 1
    minSpawnDelay := 200
    maxSpawnDelay := 200 }
  api := fun _ _ => ⟨.ofMilliseconds 300, .status 404⟩
  order := id

theorem slowWalkers_isOver : (slowWalkers.after 16).isOver = true := by decide +kernel

end RunPlan
end TransitLoad
