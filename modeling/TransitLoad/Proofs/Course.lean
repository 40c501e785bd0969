import Mathlib.Tactic.SplitIfs
import TransitLoad.Proofs.Delays
import TransitLoad.Proofs.Passages
import TransitLoad.Run.Summary

/-!
# The course of a test

A step of a test is made of actions: of the driver, which reports a tick, takes a
slot, waits for one, starts a walker or stops; and of a walker, which carries on or
ends.  When nobody can act, the clock moves on.  Whatever every action and every
move of the clock keeps, holds at every point of a test.

Beside the states, a journal holds what the walkers did, and when.
-/

namespace TransitLoad

open Activity

/-! ## Deeds -/

/-- Something that a walker did, and the moment at which it began. -/
structure Deed where
  walker : Nat
  time : Nat
  event : Event WalkNote
  deriving DecidableEq

namespace Deed

/-- The moment at which a deed is over. -/
def endsAt (deed : Deed) : Nat := deed.time + deed.event.wait

/-- Deeds that fill the time from one moment to another: each begins when the one
before it is over. -/
def Unbroken : Nat → List Deed → Nat → Prop
  | start, [], stop => start = stop
  | start, deed :: deeds, stop => deed.time = start ∧ Unbroken deed.endsAt deeds stop

theorem Unbroken.append
    (before : Unbroken start deeds middle)
    (after : Unbroken middle deeds' stop) :
    Unbroken start (deeds ++ deeds') stop := by
  induction deeds generalizing start with
  | nil =>
      cases before
      exact after
  | cons deed deeds hypothesis => exact ⟨before.1, hypothesis before.2⟩

/-- Unbroken deeds take as long as their events. -/
theorem Unbroken.stop_eq
    (unbroken : Unbroken start deeds stop) :
    stop = start + Event.span (deeds.map event) := by
  induction deeds generalizing start with
  | nil => exact unbroken.symm
  | cons deed deeds hypothesis =>
      rw [hypothesis unbroken.2, Deed.endsAt, unbroken.1, List.map_cons, Event.span_cons,
        Nat.add_assoc]

end Deed

/-- What a walker does while the clock stands is unbroken. -/
theorem Activity.unbroken_stretch
    (activity : RemainingWalk)
    (api : Api)
    (place walker now : Nat) :
    Deed.Unbroken now ((activity.stretch api place).map fun event => ⟨walker, now, event⟩)
      (now + Event.span (activity.stretch api place)) := by
  induction activity generalizing place with
  | finish result => rfl
  | request url resume hypothesis =>
      simp only [stretch, List.map_cons, Event.span_cons]
      refine ⟨rfl, ?_⟩
      rw [Deed.endsAt, Event.wait, wait_answer]
      split_ifs with still
      · rw [still, Nat.add_zero, Nat.zero_add]
        exact hypothesis _ (place + 1)
      · rfl
  | pause length resume hypothesis =>
      simp only [stretch, List.map_cons, Event.span_cons]
      refine ⟨rfl, ?_⟩
      rw [Deed.endsAt, Event.wait]
      split_ifs with still
      · rw [still, Nat.add_zero, Nat.zero_add]
        exact hypothesis place
      · rfl
  | note entry resume hypothesis =>
      simp only [stretch, List.map_cons, Event.span_cons]
      refine ⟨rfl, ?_⟩
      rw [Event.wait, Nat.zero_add]
      exact hypothesis place

namespace RunState

/-! ## Walkers -/

/-- What is recorded of some events of a walker: its requests and its notes. -/
def recordEvents (state : RunState) (events : List (Event WalkNote)) : RunState :=
  { state with
    requests := state.requests ++
      (events.filterMap fun event => event.exchange?.map Prod.fst).toArray
    notes := state.notes ++ ((events.filterMap Event.note?).map RunNote.walk).toArray }

theorem recordEvents_nil (state : RunState) : state.recordEvents [] = state := by
  simp [recordEvents]

theorem recordEvents_exchanged
    (state : RunState)
    (url : Url)
    (answer : Answer)
    (events : List (Event WalkNote)) :
    { state with requests := state.requests.push url }.recordEvents events =
      state.recordEvents (.exchanged url answer :: events) := by
  simp [recordEvents, List.filterMap_cons]

theorem recordEvents_rested
    (state : RunState)
    (length : Duration)
    (events : List (Event WalkNote)) :
    state.recordEvents (.rested length :: events) = state.recordEvents events := by
  simp [recordEvents, List.filterMap_cons]

theorem recordEvents_noted
    (state : RunState)
    (entry : WalkNote)
    (events : List (Event WalkNote)) :
    (state.note (.walk entry)).recordEvents events =
      state.recordEvents (.noted entry :: events) := by
  simp [recordEvents, note, List.filterMap_cons]

/-- A walker carries on through the events that happen while the clock stands. -/
theorem carryOn_fst
    (plan : RunPlan)
    (state : RunState)
    (remaining : RemainingWalk) :
    (state.carryOn plan remaining).1 =
      state.recordEvents (remaining.stretch plan.api state.requests.size) := by
  induction remaining generalizing state with
  | finish result => exact (recordEvents_nil state).symm
  | request url resume hypothesis =>
      simp only [carryOn, stretch]
      rw [← recordEvents_exchanged]
      split_ifs with still
      · rw [hypothesis, Array.size_push]
        rfl
      · rw [recordEvents_nil]
  | pause length resume hypothesis =>
      simp only [carryOn, stretch]
      rw [recordEvents_rested]
      split_ifs with still
      · exact hypothesis state
      · rw [recordEvents_nil]
  | note entry resume hypothesis =>
      simp only [carryOn, stretch]
      rw [← recordEvents_noted]
      exact hypothesis _

/-- How far a walker gets through its events. -/
def WalkProgress.Reached
    (now : Nat)
    (remaining : RemainingWalk)
    (events : List (Event WalkNote)) : WalkProgress → Prop
  | .waits wakesAt remainder =>
      Leads remaining events remainder ∧ wakesAt = now + Event.span events ∧
        0 < Event.span events
  | .ends result => Yields remaining events result ∧ Event.span events = 0

theorem WalkProgress.Reached.cons
    {progress : WalkProgress}
    {now : Nat}
    (reached : progress.Reached now resume events)
    (instant : event.wait = 0)
    (passage : ∀ events remainder, Leads resume events remainder →
      Leads remaining (event :: events) remainder) :
    progress.Reached now remaining (event :: events) := by
  cases progress with
  | waits wakesAt remainder =>
      obtain ⟨leads, wakes, positive⟩ := reached
      refine ⟨passage _ _ leads, ?_, ?_⟩ <;> rw [Event.span_cons, instant, Nat.zero_add]
      · exact wakes
      · exact positive
  | ends result =>
      obtain ⟨yields, span⟩ := reached
      refine ⟨passage _ _ yields, ?_⟩
      rw [Event.span_cons, instant, span]

theorem carryOn_snd
    (plan : RunPlan)
    (state : RunState)
    (remaining : RemainingWalk) :
    (state.carryOn plan remaining).2.Reached state.now remaining
      (remaining.stretch plan.api state.requests.size) := by
  induction remaining generalizing state with
  | finish result => exact ⟨.here _, rfl⟩
  | request url resume hypothesis =>
      simp only [carryOn, stretch]
      split_ifs with still
      · have reached := hypothesis (plan.api.answer state.requests.size url)
          { state with requests := state.requests.push url }
        rw [Array.size_push] at reached
        exact reached.cons ((wait_answer ..).trans still)
          fun _ _ passage => .exchanged _ _ passage
      · refine ⟨.exchanged _ _ (.here _), ?_, ?_⟩ <;>
          rw [Event.span_cons, Event.span_nil, Event.wait, wait_answer]
        · rfl
        · omega
  | pause length resume hypothesis =>
      simp only [carryOn, stretch]
      split_ifs with still
      · exact (hypothesis state).cons still fun _ _ passage => .rested _ passage
      · refine ⟨.rested _ (.here _), ?_, ?_⟩ <;>
          rw [Event.span_cons, Event.span_nil, Event.wait]
        · rfl
        · omega
  | note entry resume hypothesis =>
      exact (hypothesis _).cons rfl fun _ _ passage => .noted _ passage

end RunState

/-! ## Actions -/

namespace Admission

/-- A free slot is taken. -/
def take (admission : Admission) : Admission :=
  { admission with available := admission.available - 1 }.notePeak

/-- A client begins to wait. -/
def enqueue (admission : Admission) (client : Nat) : Admission :=
  { admission with waiting := admission.waiting ++ [client] }

/-- A client takes up the slot assigned to it. -/
def collect (admission : Admission) (client : Nat) : Admission :=
  { admission with assigned := admission.assigned.erase client }.notePeak

theorem isExpired_iff (admission : Admission) (now : Nat) :
    admission.isExpired now = true ↔ admission.deadline ≤ now := by
  simp [isExpired]

end Admission

namespace RunState

/-- The driver holds a slot until a random delay is over. -/
def hold (plan : RunPlan) (state : RunState) : RunState :=
  { state with
    generator := state.generator.skip plan.settings.spawnDelay.words
    phase := .delaying
      (state.now + (plan.settings.spawnDelay.drawn state.generator).waitMilliseconds) }

/-- What a walker does when it acts. -/
def deedsOf (plan : RunPlan) (state : RunState) (walk : ActiveWalk) : List Deed :=
  (walk.remaining.stretch plan.api state.requests.size).map fun event =>
    ⟨walk.walker, state.now, event⟩

/-- A walker goes through some events and waits. -/
def carried
    (state : RunState)
    (walk : ActiveWalk)
    (events : List (Event WalkNote))
    (remaining : RemainingWalk) : RunState :=
  { state.recordEvents events with
    turns := state.turns + 1
    active := state.active.map fun other =>
      if other.walker = walk.walker then
        { other with wakesAt := state.now + Event.span events, remaining }
      else other }

/-- A walker goes through some events and ends. -/
def retired
    (state : RunState)
    (walk : ActiveWalk)
    (events : List (Event WalkNote))
    (result : Except Fault WalkOutcome) : RunState :=
  { state.recordEvents events with
    turns := state.turns + 1
    active := state.active.filter (·.walker ≠ walk.walker)
    admission := state.admission.giveBack
    ended := ⟨walk.walker, walk.startedAt, state.now, result⟩ :: state.ended }

end RunState

open RunState

/-- What the driver or a walker may do while the clock stands. -/
inductive Action (plan : RunPlan) : RunState → List Deed → RunState → Prop where
  /-- The driver, which holds no slot, reports a tick. -/
  | tick
      (idle : state.phase = .asking ∨ state.phase = .waiting)
      (due : state.nextTick ≤ state.now) :
      Action plan state [] (state.tick plan)
  /-- The driver takes a free slot. -/
  | take
      (asking : state.phase = .asking)
      (early : state.now < state.admission.deadline)
      (free : 0 < state.admission.available) :
      Action plan state [] ({ state with admission := state.admission.take }.hold plan)
  /-- The driver begins to wait for a slot. -/
  | queue
      (asking : state.phase = .asking)
      (early : state.now < state.admission.deadline)
      (full : state.admission.available = 0) :
      Action plan state []
        { state with
          admission := state.admission.enqueue driverClient
          phase := .waiting }
  /-- The driver takes up the slot assigned to it. -/
  | collect
      (early : state.now < state.admission.deadline)
      (assigned : driverClient ∈ state.admission.assigned) :
      Action plan state []
        ({ state with admission := state.admission.collect driverClient }.hold plan)
  /-- The driver asks too late. -/
  | refuse
      (asking : state.phase = .asking)
      (late : state.admission.deadline ≤ state.now) :
      Action plan state [] state.finish
  /-- The driver has waited too long. -/
  | withdraw
      (pending : state.phase = .waiting ∨ driverClient ∈ state.admission.assigned)
      (late : state.admission.deadline ≤ state.now) :
      Action plan state []
        { state with admission := state.admission.withdraw driverClient }.finish
  /-- The driver starts a walker with its slot. -/
  | start
      (delaying : state.phase = .delaying wakesAt)
      (elapsed : wakesAt ≤ state.now)
      (early : state.now < state.admission.deadline) :
      Action plan state [] (state.startWalker plan)
  /-- The driver gives its slot back, the delay having ended too late. -/
  | giveUp
      (delaying : state.phase = .delaying wakesAt)
      (elapsed : wakesAt ≤ state.now)
      (late : state.admission.deadline ≤ state.now) :
      Action plan state [] { state with admission := state.admission.giveBack }.finish
  /-- A walker carries on. -/
  | carry
      (present : walk ∈ state.active)
      (awake : walk.wakesAt ≤ state.now)
      (eventsEq : events = walk.remaining.stretch plan.api state.requests.size)
      (passage : Leads walk.remaining events remaining)
      (lasting : 0 < Event.span events) :
      Action plan state (state.deedsOf plan walk) (state.carried walk events remaining)
  /-- A walker ends. -/
  | retire
      (present : walk ∈ state.active)
      (awake : walk.wakesAt ≤ state.now)
      (eventsEq : events = walk.remaining.stretch plan.api state.requests.size)
      (yields : Yields walk.remaining events result)
      (instant : Event.span events = 0) :
      Action plan state (state.deedsOf plan walk) (state.retired walk events result)

/-- One action or more, one after another. -/
inductive Turn (plan : RunPlan) : RunState → List Deed → RunState → Prop where
  | single (action : Action plan state deeds state') : Turn plan state deeds state'
  | more
      (action : Action plan state deeds middle)
      (turn : Turn plan middle deeds' state') :
      Turn plan state (deeds ++ deeds') state'

namespace RunState

/-- Whether the driver or a walker can act. -/
def CanAct (state : RunState) : Prop := state.canDrive = true ∨ state.ready ≠ []

/-- What walkers do in the next step. -/
def nextDeeds (plan : RunPlan) (state : RunState) : List Deed :=
  if state.canDrive then []
  else
    match state.ready[plan.order state.turns % state.ready.length]? with
    | some walk => state.deedsOf plan walk
    | none => []

/-! ## Steps -/

theorem endDelay_of_late
    {state : RunState}
    (late : state.admission.deadline ≤ state.now)
    (plan : RunPlan) :
    state.endDelay plan = { state with admission := state.admission.giveBack }.finish := by
  simp [endDelay, Admission.isExpired, late]

theorem endDelay_of_early
    {state : RunState}
    (early : state.now < state.admission.deadline)
    (plan : RunPlan) :
    state.endDelay plan = state.startWalker plan := by
  simp [endDelay, Admission.isExpired, early]

theorem beginDelay_eq (plan : RunPlan) (state : RunState) :
    state.beginDelay plan =
      if (plan.settings.spawnDelay.drawn state.generator).waitMilliseconds = 0 then
        (state.hold plan).endDelay plan
      else state.hold plan := by
  simp only [beginDelay,
    DelayRange.sample_eq_drawn plan.settings.spawnDelay_isRepresentable]
  rfl

/-- An action after which the driver holds a slot is followed by the start of a walker
if the delay takes no time. -/
theorem Turn.beginDelay
    {before state : RunState}
    (action : Action plan before deeds (state.hold plan))
    (early : state.now < state.admission.deadline) :
    Turn plan before deeds (state.beginDelay plan) := by
  rw [beginDelay_eq]
  split_ifs with instant
  · have held : (state.hold plan).now < (state.hold plan).admission.deadline := early
    rw [endDelay_of_early held]
    have elapsed : state.now +
        (plan.settings.spawnDelay.drawn state.generator).waitMilliseconds ≤ state.now := by
      omega
    have turn := Turn.more action (.single (.start rfl elapsed held))
    rwa [List.append_nil] at turn
  · exact .single action

theorem heed_granted_turn
    {before state : RunState}
    {admission : Admission}
    (action : Action plan before deeds ({ state with admission }.hold plan))
    (early : state.now < admission.deadline) :
    Turn plan before deeds (state.heed plan admission .granted) :=
  Turn.beginDelay action early

theorem askForSlot_turn
    {state : RunState}
    (asking : state.phase = .asking)
    (plan : RunPlan) :
    Turn plan state [] (state.askForSlot plan) := by
  simp only [askForSlot, Admission.ask]
  split_ifs with late full
  · exact .single (.refuse asking ((Admission.isExpired_iff ..).mp late))
  · rw [Admission.isExpired_iff, Nat.not_le] at late
    exact .single (.queue asking late full)
  · rw [Admission.isExpired_iff, Nat.not_le] at late
    exact heed_granted_turn (.take asking late (Nat.pos_of_ne_zero full)) late

theorem lookForSlot_turn
    {state : RunState}
    (pending : state.phase = .waiting ∨ driverClient ∈ state.admission.assigned)
    (ready : state.admission.deadline ≤ state.now ∨ driverClient ∈ state.admission.assigned)
    (plan : RunPlan) :
    Turn plan state [] (state.lookForSlot plan) := by
  simp only [lookForSlot, Admission.resume]
  split_ifs with late assigned
  · exact .single (.withdraw pending ((Admission.isExpired_iff ..).mp late))
  · rw [Admission.isExpired_iff, Nat.not_le] at late
    exact heed_granted_turn (.collect late assigned) late
  · rw [Admission.isExpired_iff] at late
    rcases ready with passed | assigned'
    · exact absurd passed late
    · exact absurd assigned' assigned

theorem drive_turn
    {state : RunState}
    (canDrive : state.canDrive = true)
    (plan : RunPlan) :
    Turn plan state [] (state.drive plan) := by
  unfold RunState.canDrive at canDrive
  unfold drive
  cases phase : state.phase with
  | asking =>
      simp only
      split_ifs with due
      · exact .single (.tick (.inl phase) (by simpa [isTickDue] using due))
      · exact askForSlot_turn phase plan
  | waiting =>
      simp only
      split_ifs with due
      · exact .single (.tick (.inr phase) (by simpa [isTickDue] using due))
      · apply lookForSlot_turn (.inl phase)
        simpa [phase, due, Admission.isExpired] using canDrive
  | delaying wakesAt =>
      have elapsed : wakesAt ≤ state.now := by simpa [phase] using canDrive
      simp only
      rcases Nat.lt_or_ge state.now state.admission.deadline with early | late
      · rw [endDelay_of_early early]
        exact .single (.start phase elapsed early)
      · rw [endDelay_of_late late]
        exact .single (.giveUp phase elapsed late)
  | finished => simp [phase] at canDrive
  | broken fault => simp [phase] at canDrive

theorem act_turn
    {state : RunState}
    {walk : ActiveWalk}
    (present : walk ∈ state.active)
    (awake : walk.wakesAt ≤ state.now)
    (plan : RunPlan) :
    Turn plan state (state.deedsOf plan walk)
      ({ state with turns := state.turns + 1 }.act plan walk) := by
  have reached := carryOn_snd plan { state with turns := state.turns + 1 } walk.remaining
  have recorded := carryOn_fst plan { state with turns := state.turns + 1 } walk.remaining
  unfold act
  generalize carryOn plan { state with turns := state.turns + 1 } walk.remaining = progress
    at reached recorded
  obtain ⟨after, progress⟩ := progress
  cases recorded
  cases progress with
  | waits wakesAt remaining =>
      obtain ⟨passage, rfl, lasting⟩ := reached
      exact .single (.carry present awake rfl passage lasting)
  | ends result =>
      obtain ⟨yields, instant⟩ := reached
      have action : Action plan state (state.deedsOf plan walk)
          (state.retired walk (walk.remaining.stretch plan.api state.requests.size) result) :=
        .retire present awake rfl yields instant
      simp only [endWalk]
      split_ifs with assigned
      · have turn := Turn.more action (lookForSlot_turn (.inr assigned) (.inr assigned) plan)
        rwa [List.append_nil] at turn
      · exact .single action

theorem mem_ready {state : RunState} {walk : ActiveWalk} :
    walk ∈ state.ready ↔ walk ∈ state.active ∧ walk.wakesAt ≤ state.now := by
  simp [ready]

/-- While somebody can act, a step is a turn of the driver or of a walker. -/
theorem step_turn
    {state : RunState}
    (canAct : state.CanAct)
    (plan : RunPlan) :
    Turn plan state (state.nextDeeds plan) (state.step plan) := by
  unfold nextDeeds step
  split_ifs with canDrive
  · exact drive_turn canDrive plan
  · have some : state.ready ≠ [] := canAct.resolve_left canDrive
    have inside : plan.order state.turns % state.ready.length < state.ready.length :=
      Nat.mod_lt _ (List.length_pos_iff.mpr some)
    have present := List.getElem_mem inside
    simp only [List.getElem?_eq_getElem inside]
    exact act_turn (mem_ready.mp present).1 (mem_ready.mp present).2 plan

/-- When nobody can act, the clock moves on. -/
theorem step_of_not_canAct
    {state : RunState}
    (nobody : ¬state.CanAct)
    (plan : RunPlan) :
    state.step plan = state.advance ∧ state.nextDeeds plan = [] := by
  simp only [CanAct, not_or, not_not] at nobody
  simp [nextDeeds, step, nobody]

theorem complete_succ (plan : RunPlan) (steps : Nat) (state : RunState) :
    state.complete plan (steps + 1) =
      if (state.complete plan steps).isOver then state.complete plan steps
      else (state.complete plan steps).step plan := by
  induction steps generalizing state with
  | zero => rfl
  | succ steps hypothesis =>
      by_cases stopped : state.isOver = true
      · have stays (steps : Nat) : state.complete plan steps = state := by
          cases steps <;> simp [complete, stopped]
        simp only [stays, stopped, if_true]
      · have goesOn (steps : Nat) :
            state.complete plan (steps + 1) = (state.step plan).complete plan steps := by
          rw [complete, if_neg stopped]
        rw [goesOn, goesOn, hypothesis]

end RunState

/-! ## Points of a test -/

/-- What every turn keeps, if every action keeps it. -/
theorem Turn.keeps
    {motive : RunState → List Deed → Prop}
    (act : ∀ {state journal deeds state'}, motive state journal →
      Action plan state deeds state' → motive state' (journal ++ deeds))
    (turn : Turn plan state deeds state')
    (holds : motive state journal) :
    motive state' (journal ++ deeds) := by
  induction turn generalizing journal with
  | single action => exact act holds action
  | more action turn hypothesis =>
      rw [← List.append_assoc]
      exact hypothesis (act holds action)

/-- What every turn keeps of the states alone, if every action keeps it. -/
theorem Turn.keepsState
    {motive : RunState → Prop}
    (act : ∀ {state deeds state'}, motive state →
      Action plan state deeds state' → motive state')
    (turn : Turn plan state deeds state')
    (holds : motive state) :
    motive state' := by
  induction turn with
  | single action => exact act holds action
  | more action turn hypothesis => exact hypothesis (act holds action)

namespace RunPlan

/-- The beginning of a test. -/
def outset (plan : RunPlan) : RunState :=
  .initial plan (.opened plan.settings.maxConcurrency.toNat plan.deadline)

/-- A test after so many steps, or at its end if that comes first. -/
def after (plan : RunPlan) (steps : Nat) : RunState := plan.outset.complete plan steps

/-- What the walkers of a test have done after so many steps. -/
def journal (plan : RunPlan) : Nat → List Deed
  | 0 => []
  | steps + 1 =>
      plan.journal steps ++
        if (plan.after steps).isOver then [] else (plan.after steps).nextDeeds plan

theorem after_succ (plan : RunPlan) (steps : Nat) :
    plan.after (steps + 1) =
      if (plan.after steps).isOver then plan.after steps else (plan.after steps).step plan :=
  complete_succ plan steps plan.outset

/-- A test that is over stays as it is. -/
theorem after_of_isOver
    {plan : RunPlan}
    (stopped : (plan.after steps).isOver = true)
    (le : steps ≤ later) :
    plan.after later = plan.after steps := by
  induction later, le using Nat.le_induction with
  | base => rfl
  | succ later le hypothesis => rw [after_succ, hypothesis, if_pos stopped]

/-- What holds in the beginning, and is kept by every action and whenever the clock
moves on, holds at every point of a test. -/
theorem course_induction
    {plan : RunPlan}
    {motive : RunState → List Deed → Prop}
    (outset : motive plan.outset [])
    (act : ∀ {state journal deeds state'}, motive state journal →
      Action plan state deeds state' → motive state' (journal ++ deeds))
    (advance : ∀ {state journal}, motive state journal → ¬state.CanAct →
      state.isOver = false → motive state.advance journal)
    (steps : Nat) :
    motive (plan.after steps) (plan.journal steps) := by
  induction steps with
  | zero => exact outset
  | succ steps hypothesis =>
      rw [after_succ, journal]
      split_ifs with stopped
      · rwa [List.append_nil]
      · by_cases canAct : (plan.after steps).CanAct
        · exact Turn.keeps act (step_turn canAct plan) hypothesis
        · obtain ⟨stepEq, deedsEq⟩ := step_of_not_canAct canAct plan
          rw [stepEq, deedsEq, List.append_nil]
          exact advance hypothesis canAct (by simpa using stopped)

/-- What every action keeps of the states alone holds at every later point of a test. -/
theorem onward_induction
    {plan : RunPlan}
    {motive : RunState → Prop}
    (act : ∀ {state deeds state'}, motive state →
      Action plan state deeds state' → motive state')
    (advance : ∀ {state}, motive state → ¬state.CanAct →
      state.isOver = false → motive state.advance)
    (le : earlier ≤ later)
    (holds : motive (plan.after earlier)) :
    motive (plan.after later) := by
  induction later, le using Nat.le_induction with
  | base => exact holds
  | succ later le hypothesis =>
      rw [after_succ]
      split_ifs with stopped
      · exact hypothesis
      · by_cases canAct : (plan.after later).CanAct
        · exact Turn.keepsState act (step_turn canAct plan) hypothesis
        · rw [(step_of_not_canAct canAct plan).1]
          exact advance hypothesis canAct (by simpa using stopped)

/-- The final state of a test, if there is one, is a point at which it is over. -/
theorem isOver_of_finalState
    {plan : RunPlan}
    (ends : plan.finalState = .ok state) :
    plan.settings.IsValid ∧ state = plan.after plan.stepBound ∧ state.isOver = true := by
  unfold finalState finalStateWithin at ends
  split at ends
  · cases ends
  · rename_i valid
    have isValid := plan.settings.validate_eq_ok.mp valid
    have countable : ¬Admission.largestCapacity < plan.settings.maxConcurrency.toNat :=
      isValid.concurrency_le.not_gt
    simp only [Admission.open?, if_neg countable] at ends
    split at ends
    · cases ends
    · split_ifs at ends with stopped
      cases ends
      exact ⟨isValid, rfl, stopped⟩

/-- The final state of a test is the one after any number of steps at which it is over. -/
theorem eq_after_of_finalState
    {plan : RunPlan}
    (ends : plan.finalState = .ok state)
    (stopped : (plan.after steps).isOver = true)
    (le : steps ≤ plan.stepBound) :
    state = plan.after steps := by
  rw [(isOver_of_finalState ends).2.1]
  exact after_of_isOver stopped le

end RunPlan
end TransitLoad
