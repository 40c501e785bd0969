import Mathlib.Data.List.Forall2
import TransitLoad.Proofs.Lockstep
import TransitLoad.Proofs.Timelines

/-!
# Tests in lockstep

A test before an API that breaks down goes on as it would before the repaired one: step by
step both tests are in the same state, up to what becomes of the walkers that are lost in
the one and aborted in the other, and up to what these note.
-/

namespace TransitLoad

open Activity

/-- A test before the repaired API. -/
def RunPlan.repaired (plan : RunPlan) (codes : Url → Nat) : RunPlan :=
  { plan with api := plan.api.repaired codes }

/-! ## Lists in step -/

/-- What lists in step have in common. -/
theorem map_eq_of_forall₂
    {first : List α}
    {second : List β}
    {image : α → γ}
    {image' : β → γ}
    (related : List.Forall₂ relation first second)
    (same : ∀ value value', relation value value' → image' value' = image value) :
    second.map image' = first.map image := by
  have mapped : List.Forall₂ (· = ·) (first.map image) (second.map image') := by
    refine List.rel_map ?_ related
    intro value value' together
    exact (same value value' together).symm
  rw [List.forall₂_eq_eq_eq] at mapped
  exact mapped.symm

/-- Lists in step have related elements at every place, or none. -/
theorem getElem?_of_forall₂
    {first : List α}
    {second : List β}
    (related : List.Forall₂ relation first second)
    (place : Nat) :
    (∃ value value', first[place]? = some value ∧ second[place]? = some value' ∧
      relation value value') ∨ first[place]? = none ∧ second[place]? = none := by
  induction related generalizing place with
  | nil => exact .inr ⟨rfl, rfl⟩
  | cons related _ hypothesis =>
      cases place with
      | zero => exact .inl ⟨_, _, rfl, rfl, related⟩
      | succ place => exact hypothesis place

/-! ## States -/

/-- The sample that is noted, if one is. -/
def RunNote.sample? (note : RunNote) : Option (ResourceKind × Duration) :=
  note.walk?.bind WalkNote.sample?

/-- The samples among some notes, in order. -/
def sampled (notes : Array RunNote) : List (ResourceKind × Duration) :=
  notes.toList.filterMap RunNote.sample?

theorem sampled_push (notes : Array RunNote) (note : RunNote) :
    sampled (notes.push note) = sampled notes ++ note.sample?.toList := by
  simp only [sampled, Array.toList_push, List.filterMap_append]
  cases sample : note.sample? <;> simp [sample]

theorem RunState.sampled_notes (state : RunState) :
    sampled state.notes = state.walkNotes.filterMap WalkNote.sample? := by
  rw [walkNotes, List.filterMap_filterMap]
  rfl

/-- Walkers under way in both tests. -/
structure ActiveWalk.Lockstep
    (api : Api)
    (codes : Url → Nat)
    (walk walk' : ActiveWalk) : Prop where
  walker : walk'.walker = walk.walker
  startedAt : walk'.startedAt = walk.startedAt
  wakesAt : walk'.wakesAt = walk.wakesAt
  remaining : Activity.Lockstep api codes (SharesFate api codes) walk.remaining walk'.remaining

/-- Walkers that ended in both tests. -/
structure EndedWalk.Lockstep
    (api : Api)
    (codes : Url → Nat)
    (walk walk' : EndedWalk) : Prop where
  walker : walk'.walker = walk.walker
  startedAt : walk'.startedAt = walk.startedAt
  endedAt : walk'.endedAt = walk.endedAt
  fate : SharesFate api codes walk.result walk'.result

namespace RunState

/-- Two tests are in lockstep: they are in the same state, apart from what their walkers
have left to do or have come to, and from notes that are no samples. -/
inductive Lockstep (api : Api) (codes : Url → Nat) : RunState → RunState → Prop where
  | intro
      {state : RunState}
      {active' : List ActiveWalk}
      {ended' : List EndedWalk}
      {notes' : Array RunNote}
      (active : List.Forall₂ (ActiveWalk.Lockstep api codes) state.active active')
      (ended : List.Forall₂ (EndedWalk.Lockstep api codes) state.ended ended')
      (samples : sampled notes' = sampled state.notes) :
      Lockstep api codes state { state with active := active', ended := ended', notes := notes' }

/-- How far two walkers get that go on in lockstep. -/
inductive WalkProgress.Lockstep (api : Api) (codes : Url → Nat) :
    WalkProgress → WalkProgress → Prop where
  | waits
      (wakesAt : Nat)
      (later : Activity.Lockstep api codes (SharesFate api codes) remaining remaining') :
      Lockstep api codes (.waits wakesAt remaining) (.waits wakesAt remaining')
  | ends (fate : SharesFate api codes result result') :
      Lockstep api codes (.ends result) (.ends result')

namespace Lockstep

section

variable {codes : Url → Nat} {api : Api} {state state' : RunState}

theorem course_eq
    (lockstep : Lockstep api codes state state') :
    state'.spawned = state.spawned ∧ state'.now = state.now ∧
      state'.admission = state.admission := by
  obtain ⟨_, _, _⟩ := lockstep
  exact ⟨rfl, rfl, rfl⟩

theorem ended_lockstep
    (lockstep : Lockstep api codes state state') :
    List.Forall₂ (EndedWalk.Lockstep api codes) state.ended state'.ended := by
  obtain ⟨_, ended, _⟩ := lockstep
  exact ended

theorem samples_eq
    (lockstep : Lockstep api codes state state') :
    sampled state'.notes = sampled state.notes := by
  obtain ⟨_, _, samples⟩ := lockstep
  exact samples

/-! ## The driver -/

theorem note
    (lockstep : Lockstep api codes state state')
    (entry : RunNote) :
    Lockstep api codes (state.note entry) (state'.note entry) := by
  obtain ⟨active, ended, samples⟩ := lockstep
  exact .intro active ended (by simp only [RunState.note, sampled_push, samples])

theorem finish
    (lockstep : Lockstep api codes state state') :
    Lockstep api codes state.finish state'.finish := by
  obtain ⟨active, ended, samples⟩ := lockstep
  have finished : Lockstep api codes { state with phase := .finished } _ :=
    .intro active ended samples
  exact finished.note _

theorem startWalker
    (lockstep : Lockstep api codes state state')
    (plan : RunPlan) :
    Lockstep api codes (state.startWalker plan) (state'.startWalker (plan.repaired codes)) := by
  obtain ⟨active, ended, samples⟩ := lockstep
  refine .intro (List.rel_append active (.cons ⟨rfl, rfl, rfl, ?_⟩ .nil)) ended samples
  exact Walker.walk_lockstep plan.settings.actionPause_isRepresentable _

theorem endDelay
    (lockstep : Lockstep api codes state state')
    (plan : RunPlan) :
    Lockstep api codes (state.endDelay plan) (state'.endDelay (plan.repaired codes)) := by
  obtain ⟨active, ended, samples⟩ := lockstep
  unfold RunState.endDelay
  dsimp only
  split_ifs
  · have back : Lockstep api codes { state with admission := state.admission.giveBack } _ :=
      .intro active ended samples
    exact back.finish
  · exact (Lockstep.intro active ended samples).startWalker plan

theorem hold
    (lockstep : Lockstep api codes state state')
    (plan : RunPlan) :
    Lockstep api codes (state.hold plan) (state'.hold (plan.repaired codes)) := by
  obtain ⟨active, ended, samples⟩ := lockstep
  exact .intro active ended samples

theorem beginDelay
    (lockstep : Lockstep api codes state state')
    (plan : RunPlan) :
    Lockstep api codes (state.beginDelay plan) (state'.beginDelay (plan.repaired codes)) := by
  have held := lockstep.hold plan
  have sameDelay : (plan.repaired codes).settings.spawnDelay.drawn state'.generator =
      plan.settings.spawnDelay.drawn state.generator := by
    cases lockstep
    rfl
  rw [beginDelay_eq, beginDelay_eq, sameDelay]
  split_ifs
  · exact held.endDelay plan
  · exact held

theorem heed
    (lockstep : Lockstep api codes state state')
    (plan : RunPlan)
    (admission : Admission)
    (verdict : Verdict) :
    Lockstep api codes (state.heed plan admission verdict)
      (state'.heed (plan.repaired codes) admission verdict) := by
  obtain ⟨active, ended, samples⟩ := lockstep
  have told : Lockstep api codes { state with admission } _ := .intro active ended samples
  cases verdict with
  | granted => exact told.beginDelay plan
  | refused => exact told.finish
  | mustWait => exact .intro active ended samples

theorem askForSlot
    (lockstep : Lockstep api codes state state')
    (plan : RunPlan) :
    Lockstep api codes (state.askForSlot plan) (state'.askForSlot (plan.repaired codes)) := by
  have heeded := lockstep.heed plan (state.admission.ask state.now driverClient).1
    (state.admission.ask state.now driverClient).2
  cases lockstep
  exact heeded

theorem lookForSlot
    (lockstep : Lockstep api codes state state')
    (plan : RunPlan) :
    Lockstep api codes (state.lookForSlot plan) (state'.lookForSlot (plan.repaired codes)) := by
  have heeded := lockstep.heed plan (state.admission.resume state.now driverClient).1
    (state.admission.resume state.now driverClient).2
  cases lockstep
  exact heeded

theorem tick
    (lockstep : Lockstep api codes state state')
    (plan : RunPlan) :
    Lockstep api codes (state.tick plan) (state'.tick (plan.repaired codes)) := by
  obtain ⟨active, ended, samples⟩ := lockstep
  have asked : Lockstep api codes
      { state with
        admission := state.admission.withdraw driverClient
        phase := .asking
        nextTick := tickAfter plan.tickInterval state.nextTick state.now } _ :=
    .intro active ended samples
  exact asked.note _

theorem drive
    (lockstep : Lockstep api codes state state')
    (plan : RunPlan) :
    Lockstep api codes (state.drive plan) (state'.drive (plan.repaired codes)) := by
  have ticked := lockstep.tick plan
  have asked := lockstep.askForSlot plan
  have looked := lockstep.lookForSlot plan
  have delayed := lockstep.endDelay plan
  have same : state'.phase = state.phase ∧ state'.isTickDue = state.isTickDue := by
    cases lockstep
    exact ⟨rfl, rfl⟩
  unfold RunState.drive
  rw [same.1, same.2]
  cases state.phase with
  | asking =>
      dsimp only
      split_ifs
      · exact ticked
      · exact asked
  | waiting =>
      dsimp only
      split_ifs
      · exact ticked
      · exact looked
  | delaying => exact delayed
  | finished | broken => exact lockstep

/-! ## Walkers -/

/-- Walkers that go on in lockstep get equally far while the clock stands. -/
theorem carryOn
    {plan : RunPlan}
    {remaining remaining' : RemainingWalk}
    (lockstep : Lockstep plan.api codes state state')
    (fixed : plan.api.IsFixed)
    (walks : Activity.Lockstep plan.api codes (SharesFate plan.api codes) remaining remaining') :
    Lockstep plan.api codes (state.carryOn plan remaining).1
        (state'.carryOn (plan.repaired codes) remaining').1 ∧
      WalkProgress.Lockstep plan.api codes (state.carryOn plan remaining).2
        (state'.carryOn (plan.repaired codes) remaining').2 := by
  -- The state of lockstep is generalised: requests and notes change it on the way.
  induction walks generalizing state state' with
  | finish fate => exact ⟨lockstep, .ends fate⟩
  | @request resume resume' url later hypothesis =>
      have sent : Lockstep plan.api codes
          { state with requests := state.requests.push url }
          { state' with requests := state'.requests.push url } := by
        obtain ⟨active, ended, samples⟩ := lockstep
        exact .intro active ended samples
      have goesOn := hypothesis sent
      have same : state'.requests.size = state.requests.size ∧ state'.now = state.now := by
        cases lockstep
        exact ⟨rfl, rfl⟩
      have latencyEq : ((plan.repaired codes).api state.requests.size url).latency =
          (plan.api state.requests.size url).latency := rfl
      rw [fixed.answer_eq 0 state.requests.size,
        (fixed.repaired codes).answer_eq 0 state.requests.size] at later goesOn
      simp only [RunState.carryOn, same.1, latencyEq]
      split_ifs
      · exact goesOn
      · refine ⟨sent, ?_⟩
        rw [same.2]
        exact .waits _ later
  | pause length later hypothesis =>
      have goesOn := hypothesis lockstep
      have sameTime : state'.now = state.now := by
        cases lockstep
        rfl
      simp only [RunState.carryOn]
      split_ifs
      · exact goesOn
      · rw [sameTime]
        exact ⟨lockstep, .waits _ later⟩
  | note entry later hypothesis => exact hypothesis (lockstep.note _)
  | extra entry unsampled later hypothesis =>
      -- Only the second test takes this note, which is no sample.
      obtain ⟨active, ended, samples⟩ := lockstep
      refine hypothesis (.intro active ended ?_)
      rw [sampled_push, samples, RunNote.sample?, RunNote.walk?, Option.bind_some, unsampled]
      exact List.append_nil _

theorem endWalk
    {walk walk' : ActiveWalk}
    (lockstep : Lockstep api codes state state')
    (walks : ActiveWalk.Lockstep api codes walk walk')
    (fate : SharesFate api codes result result')
    (plan : RunPlan) :
    Lockstep api codes (state.endWalk plan walk result)
      (state'.endWalk (plan.repaired codes) walk' result') := by
  obtain ⟨active, ended, samples⟩ := lockstep
  have both : EndedWalk.Lockstep api codes
      ⟨walk.walker, walk.startedAt, state.now, result⟩
      ⟨walk'.walker, walk'.startedAt, state.now, result'⟩ :=
    ⟨walks.walker, walks.startedAt, rfl, fate⟩
  have left : Lockstep api codes
      { state with
        admission := state.admission.giveBack
        ended := ⟨walk.walker, walk.startedAt, state.now, result⟩ :: state.ended } _ :=
    .intro active (.cons both ended) samples
  unfold RunState.endWalk
  dsimp only
  split_ifs
  · exact left.lookForSlot plan
  · exact left

theorem act
    {plan : RunPlan}
    {walk walk' : ActiveWalk}
    (lockstep : Lockstep plan.api codes state state')
    (fixed : plan.api.IsFixed)
    (walks : ActiveWalk.Lockstep plan.api codes walk walk') :
    Lockstep plan.api codes (state.act plan walk) (state'.act (plan.repaired codes) walk') := by
  obtain ⟨carried, progress⟩ := lockstep.carryOn fixed walks.remaining
  unfold RunState.act
  generalize state.carryOn plan walk.remaining = before at carried progress ⊢
  generalize state'.carryOn (plan.repaired codes) walk'.remaining = after at carried progress ⊢
  obtain ⟨state, reached⟩ := before
  obtain ⟨state', reached'⟩ := after
  cases progress with
  | waits wakesAt later =>
      obtain ⟨active, ended, samples⟩ := carried
      refine .intro ?_ ended samples
      refine List.rel_map ?_ active
      intro other other' related
      dsimp only
      rw [related.walker, walks.walker]
      split_ifs
      · exact ⟨rfl, related.startedAt, rfl, later⟩
      · exact related
  | ends fate =>
      have left : Lockstep plan.api codes
          { state with active := state.active.filter (·.walker ≠ walk.walker) }
          { state' with active := state'.active.filter (·.walker ≠ walk'.walker) } := by
        obtain ⟨active, ended, samples⟩ := carried
        refine .intro (List.rel_filter ?_ active) ended samples
        intro other other' related
        dsimp only
        rw [related.walker, walks.walker]
      exact left.endWalk walks fate plan

/-! ## Steps -/

theorem wakeTimes_eq
    (lockstep : Lockstep api codes state state') :
    state'.wakeTimes = state.wakeTimes := by
  obtain ⟨active, ended, samples⟩ := lockstep
  simp only [wakeTimes, map_eq_of_forall₂ active fun _ _ related => related.wakesAt]

theorem advance
    (lockstep : Lockstep api codes state state') :
    Lockstep api codes state.advance state'.advance := by
  have sameTimes := lockstep.wakeTimes_eq
  unfold RunState.advance
  rw [sameTimes]
  obtain ⟨active, ended, samples⟩ := lockstep
  cases state.wakeTimes.min? with
  | none => exact .intro active ended samples
  | some moment => exact .intro active ended samples

theorem ready
    (lockstep : Lockstep api codes state state') :
    List.Forall₂ (ActiveWalk.Lockstep api codes) state.ready state'.ready := by
  obtain ⟨active, ended, samples⟩ := lockstep
  refine List.rel_filter ?_ active
  intro walk walk' related
  dsimp only
  rw [related.wakesAt]

/-- Whatever happens next happens in both tests. -/
theorem step
    {plan : RunPlan}
    (lockstep : Lockstep plan.api codes state state')
    (fixed : plan.api.IsFixed) :
    Lockstep plan.api codes (state.step plan) (state'.step (plan.repaired codes)) := by
  have ready := lockstep.ready
  have driven := lockstep.drive plan
  have advanced := lockstep.advance
  have same : state'.canDrive = state.canDrive ∧ state'.turns = state.turns := by
    cases lockstep
    exact ⟨rfl, rfl⟩
  have turned : Lockstep plan.api codes { state with turns := state.turns + 1 }
      { state' with turns := state'.turns + 1 } := by
    obtain ⟨active, ended, samples⟩ := lockstep
    exact .intro active ended samples
  rw [same.2] at turned
  simp only [RunState.step, same, ← ready.length_eq]
  split_ifs
  · exact driven
  · rcases getElem?_of_forall₂ ready (plan.order state.turns % state.ready.length) with
      ⟨walk, walk', found, found', walks⟩ | ⟨found, found'⟩
    · simp only [found, show (plan.repaired codes).order = plan.order from rfl, found']
      exact turned.act fixed walks
    · simp only [found, show (plan.repaired codes).order = plan.order from rfl, found']
      exact advanced

theorem isOver_eq
    (lockstep : Lockstep api codes state state') :
    state'.isOver = state.isOver := by
  have sameEmpty (actives actives' : List ActiveWalk)
      (related : List.Forall₂ (ActiveWalk.Lockstep api codes) actives actives') :
      actives'.isEmpty = actives.isEmpty := by
    cases related <;> rfl
  obtain ⟨active, ended, samples⟩ := lockstep
  simp only [isOver, sameEmpty _ _ active]

theorem complete
    {plan : RunPlan}
    (lockstep : Lockstep plan.api codes state state')
    (fixed : plan.api.IsFixed)
    (steps : Nat) :
    Lockstep plan.api codes (state.complete plan steps)
      (state'.complete (plan.repaired codes) steps) := by
  induction steps generalizing state state' with
  | zero => exact lockstep
  | succ steps hypothesis =>
      rw [RunState.complete, RunState.complete, lockstep.isOver_eq]
      split_ifs
      · exact lockstep
      · exact hypothesis (lockstep.step fixed)

end

end Lockstep
end RunState

end TransitLoad
