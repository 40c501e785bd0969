import TransitLoad.Proofs.Statistics

/-!
# Tests that differ in their ticks

Apart from ticks, nothing that a test does depends on when the next tick is due or on what
has been noted so far.  Two tests with another time between ticks that agree in all else go
on agreeing in all else, whether their drivers or their walkers act.
-/

namespace TransitLoad

/-- The same test with another time between two ticks. -/
def RunPlan.withTickInterval (plan : RunPlan) (interval : UInt64) : RunPlan :=
  { plan with settings := { plan.settings with tickInterval := interval } }

namespace RunState

/-- Two tests are in the same state, apart from their next tick and from notes that are
none of walkers. -/
inductive Alike : RunState → RunState → Prop where
  | intro
      {state : RunState}
      (nextTick' : Nat)
      {notes' : Array RunNote}
      (notes : notes'.toList.filterMap RunNote.walk? = state.walkNotes) :
      Alike state { state with nextTick := nextTick', notes := notes' }

theorem walkNotes_note
    (state : RunState)
    (entry : RunNote) :
    (state.note entry).walkNotes = state.walkNotes ++ entry.walk?.toList := by
  simp only [walkNotes, note, Array.toList_push, List.filterMap_append]
  cases entry <;> rfl

namespace Alike

section

variable {plan : RunPlan} {interval : UInt64} {state state' : RunState}

theorem refl (state : RunState) : Alike state state := .intro state.nextTick rfl

theorem walkNotes_eq
    (alike : Alike state state') :
    state'.walkNotes = state.walkNotes := by
  obtain ⟨_, notes⟩ := alike
  exact notes

theorem now_eq
    (alike : Alike state state') :
    state'.now = state.now := by
  cases alike
  rfl

theorem phase_eq
    (alike : Alike state state') :
    state'.phase = state.phase := by
  cases alike
  rfl

theorem admission_eq
    (alike : Alike state state') :
    state'.admission = state.admission := by
  cases alike
  rfl

/-- Two tests that are like a third are like each other. -/
theorem of_both
    {common : RunState}
    (alike : Alike common state)
    (alike' : Alike common state') :
    Alike state state' := by
  obtain ⟨nextTick, notes⟩ := alike
  obtain ⟨nextTick', notes'⟩ := alike'
  exact .intro nextTick' (notes'.trans notes.symm)

/-- The result of a test depends neither on its next tick nor on notes that are none of
walkers. -/
theorem summary_eq
    (alike : Alike state state') :
    state'.summary = state.summary := by
  have recorded : state'.collected = state.collected := by
    rw [collected_eq, collected_eq, alike.walkNotes_eq]
  unfold RunState.summary
  rw [recorded]
  cases alike
  rfl

/-! ## The driver -/

theorem note
    (alike : Alike state state')
    (entry : RunNote) :
    Alike (state.note entry) (state'.note entry) := by
  obtain ⟨nextTick', notes⟩ := alike
  refine .intro nextTick' ?_
  rw [walkNotes_note, ← notes]
  exact walkNotes_note { state with nextTick := nextTick', notes := _ } entry

theorem finish
    (alike : Alike state state') :
    Alike state.finish state'.finish := by
  obtain ⟨nextTick', notes⟩ := alike
  have finished : Alike { state with phase := .finished } _ := .intro nextTick' notes
  exact finished.note _

theorem endDelay
    (alike : Alike state state') :
    Alike (state.endDelay plan) (state'.endDelay (plan.withTickInterval interval)) := by
  obtain ⟨nextTick', notes⟩ := alike
  unfold RunState.endDelay
  dsimp only
  split_ifs
  · have back : Alike { state with admission := state.admission.giveBack } _ :=
      .intro nextTick' notes
    exact back.finish
  · exact .intro nextTick' notes

theorem beginDelay
    (alike : Alike state state') :
    Alike (state.beginDelay plan) (state'.beginDelay (plan.withTickInterval interval)) := by
  have held : Alike (state.hold plan) (state'.hold (plan.withTickInterval interval)) := by
    obtain ⟨nextTick', notes⟩ := alike
    exact .intro nextTick' notes
  have sameDelay : (plan.withTickInterval interval).settings.spawnDelay.drawn state'.generator =
      plan.settings.spawnDelay.drawn state.generator := by
    cases alike
    rfl
  rw [beginDelay_eq, beginDelay_eq, sameDelay]
  split_ifs
  · exact held.endDelay
  · exact held

theorem heed
    (alike : Alike state state')
    (admission : Admission)
    (verdict : Verdict) :
    Alike (state.heed plan admission verdict)
      (state'.heed (plan.withTickInterval interval) admission verdict) := by
  obtain ⟨nextTick', notes⟩ := alike
  have told : Alike { state with admission } _ := .intro nextTick' notes
  cases verdict with
  | granted => exact told.beginDelay
  | refused => exact told.finish
  | mustWait => exact .intro nextTick' notes

theorem askForSlot
    (alike : Alike state state') :
    Alike (state.askForSlot plan) (state'.askForSlot (plan.withTickInterval interval)) := by
  have heeded :
      Alike (state.heed plan _ _) (state'.heed (plan.withTickInterval interval) _ _) :=
    alike.heed (state.admission.ask state.now driverClient).1
      (state.admission.ask state.now driverClient).2
  cases alike
  exact heeded

theorem lookForSlot
    (alike : Alike state state') :
    Alike (state.lookForSlot plan) (state'.lookForSlot (plan.withTickInterval interval)) := by
  have heeded :
      Alike (state.heed plan _ _) (state'.heed (plan.withTickInterval interval) _ _) :=
    alike.heed (state.admission.resume state.now driverClient).1
      (state.admission.resume state.now driverClient).2
  cases alike
  exact heeded

/-- A tick makes the driver ask again, and does nothing else. -/
theorem tick
    (alike : Alike state state')
    (plan : RunPlan) :
    Alike
      { state with admission := state.admission.withdraw driverClient, phase := .asking }
      (state'.tick plan) := by
  obtain ⟨nextTick', notes⟩ := alike
  refine .intro _ ?_
  rw [Array.toList_push, List.filterMap_append, notes]
  exact List.append_nil _

/-! ## Walkers -/

theorem carryOn
    (alike : Alike state state')
    (remaining : RemainingWalk) :
    Alike (state.carryOn plan remaining).1
        (state'.carryOn (plan.withTickInterval interval) remaining).1 ∧
      (state'.carryOn (plan.withTickInterval interval) remaining).2 =
        (state.carryOn plan remaining).2 := by
  -- The states are generalised: requests and notes change them on the way.
  induction remaining generalizing state state' with
  | finish result => exact ⟨alike, rfl⟩
  | request url resume hypothesis =>
      have sent : Alike { state with requests := state.requests.push url }
          { state' with requests := state'.requests.push url } := by
        obtain ⟨nextTick', notes⟩ := alike
        exact .intro nextTick' notes
      have same : state'.requests = state.requests := by
        cases alike
        rfl
      simp only [RunState.carryOn, same,
        show (plan.withTickInterval interval).api = plan.api from rfl]
      split_ifs
      · exact hypothesis _ (same ▸ sent)
      · exact ⟨same ▸ sent, by rw [alike.now_eq]⟩
  | pause length resume hypothesis =>
      simp only [RunState.carryOn, alike.now_eq]
      split_ifs
      · exact hypothesis alike
      · exact ⟨alike, rfl⟩
  | note entry resume hypothesis => exact hypothesis (alike.note _)

theorem endWalk
    (alike : Alike state state')
    (walk : ActiveWalk)
    (result : Except Fault WalkOutcome) :
    Alike (state.endWalk plan walk result)
      (state'.endWalk (plan.withTickInterval interval) walk result) := by
  obtain ⟨nextTick', notes⟩ := alike
  have left : Alike
      { state with
        admission := state.admission.giveBack
        ended := ⟨walk.walker, walk.startedAt, state.now, result⟩ :: state.ended } _ :=
    .intro nextTick' notes
  unfold RunState.endWalk
  dsimp only
  split_ifs
  · exact left.lookForSlot
  · exact left

theorem act
    (alike : Alike state state')
    (walk : ActiveWalk) :
    Alike (state.act plan walk) (state'.act (plan.withTickInterval interval) walk) := by
  obtain ⟨carried, progress⟩ : Alike (state.carryOn plan walk.remaining).1
      (state'.carryOn (plan.withTickInterval interval) walk.remaining).1 ∧ _ :=
    alike.carryOn walk.remaining
  unfold RunState.act
  generalize state.carryOn plan walk.remaining = before at carried progress ⊢
  generalize state'.carryOn _ walk.remaining = after at carried progress ⊢
  obtain ⟨state, reached⟩ := before
  obtain ⟨state', reached'⟩ := after
  cases progress
  cases reached with
  | waits wakesAt later =>
      obtain ⟨nextTick', notes⟩ := carried
      exact .intro nextTick' notes
  | ends result =>
      have left : Alike { state with active := state.active.filter (·.walker ≠ walk.walker) }
          { state' with active := state'.active.filter (·.walker ≠ walk.walker) } := by
        obtain ⟨nextTick', notes⟩ := carried
        exact .intro nextTick' notes
      exact left.endWalk walk result

/-! ## Time -/

/-- The clock may be set to any moment in both tests. -/
theorem setClock
    (alike : Alike state state')
    (moment : Nat) :
    Alike { state with now := moment } { state' with now := moment } := by
  obtain ⟨nextTick', notes⟩ := alike
  exact .intro nextTick' notes

theorem ready_eq
    (alike : Alike state state') :
    state'.ready = state.ready := by
  cases alike
  rfl

/-- A walker that is to act next acts in both tests. -/
theorem step_of_ready
    {walk : ActiveWalk}
    (alike : Alike state state')
    (cannotDrive : state.canDrive = false)
    (cannotDrive' : state'.canDrive = false)
    (next : state.ready[plan.order state.turns % state.ready.length]? = some walk) :
    Alike (state.step plan) (state'.step (plan.withTickInterval interval)) := by
  have turned : Alike { state with turns := state.turns + 1 }
      { state' with turns := state'.turns + 1 } := by
    obtain ⟨nextTick', notes⟩ := alike
    exact .intro nextTick' notes
  have next' : state'.ready[
      (plan.withTickInterval interval).order state'.turns % state'.ready.length]? = some walk := by
    cases alike
    exact next
  simp only [RunState.step, cannotDrive, cannotDrive', next, next']
  exact turned.act walk

end

end Alike
end RunState
end TransitLoad
