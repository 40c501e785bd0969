import Mathlib.Data.List.Perm.Basic
import TransitLoad.Proofs.SlotAccounting

/-!
# The timelines of walkers

The walk of every walker is fixed in advance by the seed of a test: which words its
choices are made from depends on how many walkers were started before it, and on
nothing else.  What a journal holds of one walker is its timeline.  The walk of the
walker leads through its timeline, which fills the time from the start of the walker
without a break, however many walkers act in between.
-/

namespace TransitLoad

open Activity

namespace RunPlan

/-! ## Walks fixed in advance -/

/-- How many words the driver takes for every walker: those of the delay, and two for
the seed of the walker. -/
def wordsPerWalker (plan : RunPlan) : Nat := plan.settings.spawnDelay.words + 2

/-- The generator of the driver after so many walkers were started. -/
def generatorAt (plan : RunPlan) (walkers : Nat) : Generator :=
  (Generator.ofSeed plan.settings.seed).skip (plan.wordsPerWalker * walkers)

/-- The seed of a walker. -/
def seedOf (plan : RunPlan) (walker : Nat) : UInt64 :=
  ((plan.generatorAt walker).skip plan.settings.spawnDelay.words).nextLong.1

/-- The walk of a walker. -/
def walkOf (plan : RunPlan) (walker : Nat) : RemainingWalk :=
  Walker.walk plan.itinerary { id := walker, generator := .ofSeed (plan.seedOf walker) }

theorem generatorAt_succ (plan : RunPlan) (walkers : Nat) :
    ((plan.generatorAt walkers).skip plan.settings.spawnDelay.words).skip 2 =
      plan.generatorAt (walkers + 1) := by
  rw [generatorAt, generatorAt, Generator.skip_skip, Generator.skip_skip, Nat.mul_succ,
    wordsPerWalker]

end RunPlan

namespace RunState

/-- The generator of the driver is the one of its next walker. -/
def Seeded (plan : RunPlan) (state : RunState) : Prop :=
  match state.phase with
  | .asking | .waiting => state.generator = plan.generatorAt state.spawned
  | .delaying _ =>
      state.generator =
        (plan.generatorAt state.spawned).skip plan.settings.spawnDelay.words
  | .finished | .broken _ => True

theorem Seeded.act
    {state : RunState}
    (seeded : state.Seeded plan)
    (serves : state.admission.Serves state.phase)
    (action : Action plan state deeds state') :
    state'.Seeded plan := by
  unfold Seeded at seeded
  cases action with
  | tick idle =>
      rcases idle with idle | idle <;> rw [idle] at seeded <;> exact seeded
  | take asking =>
      rw [asking] at seeded
      exact congrArg (Generator.skip · plan.settings.spawnDelay.words) seeded
  | queue asking =>
      rw [asking] at seeded
      exact seeded
  | collect _ present =>
      rw [(serves.waiting_of_mem present).1] at seeded
      exact congrArg (Generator.skip · plan.settings.spawnDelay.words) seeded
  | refuse => trivial
  | withdraw => trivial
  | start delaying =>
      rw [delaying] at seeded
      have next := plan.generatorAt_succ state.spawned
      rw [← seeded] at next
      exact next
  | giveUp => trivial
  | carry => exact seeded
  | retire => exact seeded

end RunState

/-! ## Timelines -/

/-- What a journal holds of one walker. -/
def timeline (journal : List Deed) (walker : Nat) : List Deed :=
  journal.filter fun deed => deed.walker = walker

@[simp] theorem timeline_append (journal deeds : List Deed) (walker : Nat) :
    timeline (journal ++ deeds) walker = timeline journal walker ++ timeline deeds walker :=
  List.filter_append ..

theorem timeline_eq_nil
    {journal : List Deed}
    (absent : ∀ deed ∈ journal, deed.walker ≠ walker) :
    timeline journal walker = [] := by
  rw [timeline, List.filter_eq_nil_iff]
  intro deed present
  rw [decide_eq_true_eq]
  exact absent deed present

theorem timeline_eq_self
    {journal : List Deed}
    (own : ∀ deed ∈ journal, deed.walker = walker) :
    timeline journal walker = journal := by
  rw [timeline, List.filter_eq_self]
  intro deed present
  rw [decide_eq_true_eq]
  exact own deed present

/-- A journal is made up of the timelines of its walkers. -/
theorem perm_timelines
    {journal : List Deed}
    (known : ∀ deed ∈ journal, deed.walker < walkers) :
    journal.Perm ((List.range walkers).flatMap (timeline journal)) := by
  induction walkers generalizing journal with
  | zero =>
      have empty : journal = [] :=
        List.eq_nil_iff_forall_not_mem.mpr fun deed present =>
          absurd (known deed present) (Nat.not_lt_zero _)
      rw [empty]
      exact List.Perm.refl _
  | succ walkers hypothesis =>
      let earlier : Deed → Bool := fun deed => deed.walker < walkers
      have last : journal.filter (fun deed => !earlier deed) = timeline journal walkers := by
        apply List.filter_congr
        intro deed present
        have le := known deed present
        simp only [earlier, ← decide_not, decide_eq_decide]
        omega
      have first : (journal.filter earlier).Perm
          ((List.range walkers).flatMap (timeline journal)) := by
        refine (hypothesis ?_).trans (List.Perm.flatMap_left _ ?_)
        · intro deed present
          exact of_decide_eq_true (List.mem_filter.mp present).2
        · intro walker present
          rw [timeline, List.filter_filter]
          apply List.Perm.of_eq
          apply List.filter_congr
          intro deed _
          have lt := List.mem_range.mp present
          simp only [earlier, ← Bool.decide_and, decide_eq_decide]
          omega
      rw [List.range_succ, List.flatMap_append, List.flatMap_singleton, ← last]
      exact (List.filter_append_perm earlier journal).symm.trans
        (first.append_right _)

namespace RunState

theorem walker_of_mem_deedsOf
    {state : RunState}
    {walk : ActiveWalk}
    (present : deed ∈ state.deedsOf plan walk) :
    deed.walker = walk.walker := by
  obtain ⟨event, _, rfl⟩ := List.mem_map.mp present
  rfl

theorem timeline_deedsOf_self
    (plan : RunPlan)
    (state : RunState)
    (walk : ActiveWalk) :
    timeline (state.deedsOf plan walk) walk.walker = state.deedsOf plan walk :=
  timeline_eq_self fun _ present => walker_of_mem_deedsOf present

theorem timeline_deedsOf_of_ne
    {walk : ActiveWalk}
    (ne : walk.walker ≠ walker)
    (plan : RunPlan)
    (state : RunState) :
    timeline (state.deedsOf plan walk) walker = [] :=
  timeline_eq_nil fun _ present same => ne ((walker_of_mem_deedsOf present).symm.trans same)

theorem event_deedsOf
    (plan : RunPlan)
    (state : RunState)
    (walk : ActiveWalk) :
    (state.deedsOf plan walk).map Deed.event =
      walk.remaining.stretch plan.api state.requests.size := by
  rw [deedsOf, List.map_map]
  exact List.map_id _

end RunState

/-- A walker under way does what is left of its walk after its timeline. -/
structure ActiveWalk.OnCourse
    (plan : RunPlan)
    (journal : List Deed)
    (walk : ActiveWalk) : Prop where
  leads : Leads (plan.walkOf walk.walker) ((timeline journal walk.walker).map Deed.event)
    walk.remaining
  unbroken : Deed.Unbroken walk.startedAt (timeline journal walk.walker) walk.wakesAt

/-- A walker that ended did all of its walk, and its timeline is all that it did. -/
structure EndedWalk.OnCourse
    (plan : RunPlan)
    (journal : List Deed)
    (walk : EndedWalk) : Prop where
  yields : Yields (plan.walkOf walk.walker)
    ((timeline journal walk.walker).map Deed.event) walk.result
  unbroken : Deed.Unbroken walk.startedAt (timeline journal walk.walker) walk.endedAt

/-- What other walkers do leaves a walker on its course. -/
theorem ActiveWalk.OnCourse.frame
    {walk : ActiveWalk}
    (onCourse : walk.OnCourse plan journal)
    (idle : timeline deeds walk.walker = []) :
    walk.OnCourse plan (journal ++ deeds) := by
  have same : timeline (journal ++ deeds) walk.walker = timeline journal walk.walker := by
    rw [timeline_append, idle, List.append_nil]
  constructor
  · rw [same]
    exact onCourse.leads
  · rw [same]
    exact onCourse.unbroken

theorem EndedWalk.OnCourse.frame
    {walk : EndedWalk}
    (onCourse : walk.OnCourse plan journal)
    (idle : timeline deeds walk.walker = []) :
    walk.OnCourse plan (journal ++ deeds) := by
  have same : timeline (journal ++ deeds) walk.walker = timeline journal walk.walker := by
    rw [timeline_append, idle, List.append_nil]
  constructor
  · rw [same]
    exact onCourse.yields
  · rw [same]
    exact onCourse.unbroken

namespace RunState

/-! ## The clock -/

/-- Nobody is late: the clock never passes the moment that somebody waits for. -/
structure Timely (state : RunState) : Prop where
  walkers : ∀ walk ∈ state.active, state.now ≤ walk.wakesAt
  delay : state.phase = .delaying wakesAt → state.now ≤ wakesAt
  pending : state.phase = .asking ∨ state.phase = .waiting →
    state.now ≤ state.admission.deadline

theorem le_now_advance (state : RunState) : state.now ≤ state.advance.now := by
  unfold advance
  split
  · exact Nat.le_refl _
  · exact Nat.le_max_left _ _

/-- The clock moves on to the first of the moments that somebody waits for. -/
theorem advance_now_le
    {state : RunState}
    (present : moment ∈ state.wakeTimes) :
    state.advance.now ≤ max state.now moment := by
  unfold advance
  cases first : state.wakeTimes.min? with
  | none =>
      rw [List.min?_eq_none_iff] at first
      simp [first] at present
  | some least =>
      have le : least ≤ moment := (List.min?_eq_some_iff.mp first).2
        moment present
      exact max_le_max_left state.now le

theorem wakesAt_mem_wakeTimes
    {state : RunState}
    {walk : ActiveWalk}
    (present : walk ∈ state.active) :
    walk.wakesAt ∈ state.wakeTimes :=
  List.mem_append_right _ (List.mem_map_of_mem present)

theorem Timely.advance
    {state : RunState}
    (timely : state.Timely)
    (nobody : ¬state.CanAct) :
    state.advance.Timely := by
  rw [advance_eq]
  constructor
  · intro walk present
    have le : state.advance.now ≤ max state.now walk.wakesAt :=
      advance_now_le (wakesAt_mem_wakeTimes present)
    rwa [max_eq_right (timely.walkers walk present)] at le
  · intro wakesAt delaying
    have present : wakesAt ∈ state.wakeTimes := by
      apply List.mem_append_left
      simp only at delaying
      simp [delaying]
    have le := advance_now_le present
    rwa [max_eq_right (timely.delay delaying)] at le
  · rintro (asking | waiting)
    · simp only at asking
      exact absurd (.inl (by simp [canDrive, asking])) nobody
    · simp only at waiting
      have present : min state.nextTick state.admission.deadline ∈ state.wakeTimes := by
        apply List.mem_append_left
        simp [waiting]
      refine (advance_now_le present).trans ?_
      exact max_le (timely.pending (.inr waiting)) (min_le_right _ _)

theorem Timely.act
    {state : RunState}
    (timely : state.Timely)
    (action : Action plan state deeds state') :
    state'.Timely := by
  cases action with
  | tick idle =>
      refine ⟨timely.walkers, by rintro _ ⟨⟩, fun _ => ?_⟩
      rw [tick, note, Admission.deadline_withdraw]
      exact timely.pending idle
  | take =>
      refine ⟨timely.walkers, ?_, by rintro (⟨⟨⟩⟩ | ⟨⟨⟩⟩)⟩
      rintro wakesAt ⟨⟩
      exact Nat.le_add_right _ _
  | queue _ early => exact ⟨timely.walkers, by rintro _ ⟨⟩, fun _ => early.le⟩
  | collect =>
      refine ⟨timely.walkers, ?_, by rintro (⟨⟨⟩⟩ | ⟨⟨⟩⟩)⟩
      rintro wakesAt ⟨⟩
      exact Nat.le_add_right _ _
  | refuse => exact ⟨timely.walkers, by rintro _ ⟨⟩, by rintro (⟨⟨⟩⟩ | ⟨⟨⟩⟩)⟩
  | withdraw => exact ⟨timely.walkers, by rintro _ ⟨⟩, by rintro (⟨⟨⟩⟩ | ⟨⟨⟩⟩)⟩
  | start _ _ early =>
      refine ⟨?_, by rintro _ ⟨⟩, fun _ => early.le⟩
      intro walk present
      rcases List.mem_append.mp present with present | present
      · exact timely.walkers walk present
      · rw [List.mem_singleton.mp present]
        exact Nat.le_refl _
  | giveUp => exact ⟨timely.walkers, by rintro _ ⟨⟩, by rintro (⟨⟨⟩⟩ | ⟨⟨⟩⟩)⟩
  | carry =>
      refine ⟨?_, timely.delay, timely.pending⟩
      intro walk present
      obtain ⟨other, otherPresent, rfl⟩ := List.mem_map.mp present
      split_ifs
      · exact Nat.le_add_right _ _
      · exact timely.walkers other otherPresent
  | retire =>
      refine ⟨?_, timely.delay, ?_⟩
      · intro walk present
        exact timely.walkers walk (List.mem_of_mem_filter present)
      · intro phase
        simp only [retired, recordEvents, Admission.deadline_giveBack]
        exact timely.pending phase

end RunState

/-! ## The journal of a test -/

/-- The note of a walker, if it is one. -/
def RunNote.walk? : RunNote → Option WalkNote
  | .walk entry => some entry
  | _ => none

/-- The URL that a walker requested, if that is what it did. -/
def Deed.requested? (deed : Deed) : Option Url := deed.event.exchange?.map Prod.fst

/-- What a walker noted, if that is what it did. -/
def Deed.note? (deed : Deed) : Option WalkNote := deed.event.note?

namespace RunState

/-- What the walkers of a test noted. -/
def walkNotes (state : RunState) : List WalkNote :=
  state.notes.toList.filterMap RunNote.walk?

/-- A journal tells what the walkers of a test have done. -/
structure Chronicle
    (plan : RunPlan)
    (state : RunState)
    (journal : List Deed) : Prop where
  known : ∀ deed ∈ journal, deed.walker < state.spawned
  active : ∀ walk ∈ state.active, walk.OnCourse plan journal
  ended : ∀ walk ∈ state.ended, walk.OnCourse plan journal
  requests : state.requests.toList = journal.filterMap Deed.requested?
  notes : state.walkNotes = journal.filterMap Deed.note?
  answered : AnsweredBy plan.api (journal.map Deed.event)

theorem requests_recordEvents (state : RunState) (events : List (Event WalkNote)) :
    (state.recordEvents events).requests.toList =
      state.requests.toList ++
        events.filterMap fun event => event.exchange?.map Prod.fst := by
  simp [recordEvents]

theorem walkNotes_recordEvents (state : RunState) (events : List (Event WalkNote)) :
    (state.recordEvents events).walkNotes =
      state.walkNotes ++ events.filterMap Event.note? := by
  have own (notes : List WalkNote) :
      (notes.map RunNote.walk).filterMap RunNote.walk? = notes := by
    rw [List.filterMap_map]
    exact List.filterMap_some (l := notes)
  simp only [walkNotes, recordEvents, Array.toList_append, List.filterMap_append, own]

theorem requested_deedsOf
    (plan : RunPlan)
    (state : RunState)
    (walk : ActiveWalk) :
    (state.deedsOf plan walk).filterMap Deed.requested? =
      (walk.remaining.stretch plan.api state.requests.size).filterMap
        fun event => event.exchange?.map Prod.fst := by
  rw [deedsOf, List.filterMap_map]
  rfl

theorem note_deedsOf
    (plan : RunPlan)
    (state : RunState)
    (walk : ActiveWalk) :
    (state.deedsOf plan walk).filterMap Deed.note? =
      (walk.remaining.stretch plan.api state.requests.size).filterMap Event.note? := by
  rw [deedsOf, List.filterMap_map]
  rfl

namespace Chronicle

/-- What is on a timeline was answered by the API. -/
theorem answered_timeline
    {state : RunState}
    (chronicle : Chronicle plan state journal)
    (walker : Nat) :
    AnsweredBy plan.api ((timeline journal walker).map Deed.event) := by
  intro url answer exchanged
  obtain ⟨deed, own, same⟩ := List.mem_map.mp exchanged
  exact chronicle.answered url answer
    (List.mem_map.mpr ⟨deed, List.mem_of_mem_filter own, same⟩)

/-- Nothing is added to the journal when no walker acts. -/
theorem idle
    {state state' : RunState}
    (chronicle : Chronicle plan state journal)
    (spawnedEq : state'.spawned = state.spawned)
    (activeEq : state'.active = state.active)
    (endedEq : state'.ended = state.ended)
    (requestsEq : state'.requests = state.requests)
    (notesEq : state'.walkNotes = state.walkNotes) :
    Chronicle plan state' (journal ++ []) := by
  rw [List.append_nil]
  constructor
  · rw [spawnedEq]
    exact chronicle.known
  · rw [activeEq]
    exact chronicle.active
  · rw [endedEq]
    exact chronicle.ended
  · rw [requestsEq]
    exact chronicle.requests
  · rw [notesEq]
    exact chronicle.notes
  · exact chronicle.answered

/-- A walker that is started has all of its walk before it. -/
theorem active_startWalker
    {state : RunState}
    (seeded : state.Seeded plan)
    (delaying : state.phase = .delaying wakesAt) :
    (state.startWalker plan).active =
      state.active ++ [⟨state.spawned, state.now, state.now, plan.walkOf state.spawned⟩] := by
  rw [Seeded, delaying] at seeded
  rw [RunPlan.walkOf, RunPlan.seedOf, ← seeded]
  rfl

theorem start
    {state : RunState}
    (chronicle : Chronicle plan state journal)
    (seeded : state.Seeded plan)
    (delaying : state.phase = .delaying wakesAt) :
    Chronicle plan (state.startWalker plan) (journal ++ []) := by
  rw [List.append_nil]
  have unheard : timeline journal state.spawned = [] :=
    timeline_eq_nil fun deed present => (chronicle.known deed present).ne
  refine ⟨?_, ?_, chronicle.ended, chronicle.requests, chronicle.notes, chronicle.answered⟩
  · intro deed present
    exact (chronicle.known deed present).trans (Nat.lt_succ_self _)
  · intro walk present
    rw [active_startWalker seeded delaying] at present
    rcases List.mem_append.mp present with present | present
    · exact chronicle.active walk present
    · rw [List.mem_singleton.mp present]
      constructor
      · simp only [unheard, List.map_nil]
        exact .here _
      · simp only [unheard]
        rfl

/-- The journal of the walkers, told on for one that acts. -/
theorem known_append
    {state : RunState}
    {walk : ActiveWalk}
    (chronicle : Chronicle plan state journal)
    (enrolled : state.Enrolled)
    (present : walk ∈ state.active) :
    ∀ deed ∈ journal ++ state.deedsOf plan walk, deed.walker < state.spawned := by
  intro deed deedPresent
  rcases List.mem_append.mp deedPresent with earlier | own
  · exact chronicle.known deed earlier
  · rw [walker_of_mem_deedsOf own]
    exact enrolled.walker_lt present

theorem answered_append
    {state : RunState}
    (chronicle : Chronicle plan state journal)
    (walk : ActiveWalk) :
    AnsweredBy plan.api ((journal ++ state.deedsOf plan walk).map Deed.event) := by
  rw [List.map_append, event_deedsOf]
  exact chronicle.answered.append (stretch_answeredBy _ _ _)

theorem requests_append
    {state : RunState}
    (chronicle : Chronicle plan state journal)
    (walk : ActiveWalk) :
    (state.recordEvents
        (walk.remaining.stretch plan.api state.requests.size)).requests.toList =
      (journal ++ state.deedsOf plan walk).filterMap Deed.requested? := by
  rw [requests_recordEvents, List.filterMap_append, requested_deedsOf, chronicle.requests]

theorem notes_append
    {state : RunState}
    (chronicle : Chronicle plan state journal)
    (walk : ActiveWalk) :
    (state.recordEvents
        (walk.remaining.stretch plan.api state.requests.size)).walkNotes =
      (journal ++ state.deedsOf plan walk).filterMap Deed.note? := by
  rw [walkNotes_recordEvents, List.filterMap_append, note_deedsOf, chronicle.notes]

/-- A walker that carries on stays on its course. -/
theorem onCourse_carried
    {state : RunState}
    {walk : ActiveWalk}
    (chronicle : Chronicle plan state journal)
    (timely : state.Timely)
    (present : walk ∈ state.active)
    (awake : walk.wakesAt ≤ state.now)
    (eventsEq : events = walk.remaining.stretch plan.api state.requests.size)
    (passage : Leads walk.remaining events remaining) :
    { walk with wakesAt := state.now + Event.span events, remaining }.OnCourse plan
      (journal ++ state.deedsOf plan walk) := by
  have onCourse := chronicle.active walk present
  have wakes : walk.wakesAt = state.now := awake.antisymm (timely.walkers walk present)
  constructor
  · simp only [timeline_append, timeline_deedsOf_self, List.map_append, event_deedsOf,
      ← eventsEq]
    exact onCourse.leads.trans passage
  · simp only [timeline_append, timeline_deedsOf_self]
    have unbroken := onCourse.unbroken
    rw [wakes] at unbroken
    rw [eventsEq]
    exact unbroken.append (unbroken_stretch _ _ _ _ _)

theorem carry
    {state : RunState}
    {walk : ActiveWalk}
    (chronicle : Chronicle plan state journal)
    (enrolled : state.Enrolled)
    (timely : state.Timely)
    (present : walk ∈ state.active)
    (awake : walk.wakesAt ≤ state.now)
    (eventsEq : events = walk.remaining.stretch plan.api state.requests.size)
    (passage : Leads walk.remaining events remaining) :
    Chronicle plan (state.carried walk events remaining)
      (journal ++ state.deedsOf plan walk) := by
  refine ⟨chronicle.known_append enrolled present, ?_, ?_, ?_, ?_,
    chronicle.answered_append walk⟩
  · intro other otherPresent
    obtain ⟨before, beforePresent, rfl⟩ := List.mem_map.mp otherPresent
    split_ifs with same
    · rw [enrolled.eq_of_walker_eq beforePresent present same]
      exact chronicle.onCourse_carried timely present awake eventsEq passage
    · exact (chronicle.active before beforePresent).frame
        (timeline_deedsOf_of_ne (Ne.symm same) plan state)
  · intro other otherPresent
    exact (chronicle.ended other otherPresent).frame
      (timeline_deedsOf_of_ne (enrolled.walker_ne present otherPresent) plan state)
  · rw [← chronicle.requests_append walk, eventsEq]
    rfl
  · rw [← chronicle.notes_append walk, eventsEq]
    rfl

theorem retire
    {state : RunState}
    {walk : ActiveWalk}
    (chronicle : Chronicle plan state journal)
    (enrolled : state.Enrolled)
    (timely : state.Timely)
    (present : walk ∈ state.active)
    (awake : walk.wakesAt ≤ state.now)
    (eventsEq : events = walk.remaining.stretch plan.api state.requests.size)
    (yields : Yields walk.remaining events result)
    (instant : Event.span events = 0) :
    Chronicle plan (state.retired walk events result)
      (journal ++ state.deedsOf plan walk) := by
  refine ⟨chronicle.known_append enrolled present, ?_, ?_, ?_, ?_,
    chronicle.answered_append walk⟩
  · intro other otherPresent
    obtain ⟨otherPresent, ne⟩ := List.mem_filter.mp otherPresent
    exact (chronicle.active other otherPresent).frame
      (timeline_deedsOf_of_ne (Ne.symm (of_decide_eq_true ne)) plan state)
  · intro other otherPresent
    rcases List.mem_cons.mp otherPresent with rfl | otherPresent
    · have onCourse := chronicle.onCourse_carried timely present awake eventsEq yields
      have unbroken := onCourse.unbroken
      rw [instant] at unbroken
      exact ⟨onCourse.leads, unbroken⟩
    · exact (chronicle.ended other otherPresent).frame
        (timeline_deedsOf_of_ne (enrolled.walker_ne present otherPresent) plan state)
  · rw [← chronicle.requests_append walk, eventsEq]
    rfl
  · rw [← chronicle.notes_append walk, eventsEq]
    rfl

/-- Every action is told in the journal. -/
theorem act
    {state : RunState}
    (chronicle : Chronicle plan state journal)
    (enrolled : state.Enrolled)
    (timely : state.Timely)
    (seeded : state.Seeded plan)
    (action : Action plan state deeds state') :
    Chronicle plan state' (journal ++ deeds) := by
  cases action with
  | tick => exact chronicle.idle rfl rfl rfl rfl (by simp [walkNotes, tick, note, RunNote.walk?])
  | take => exact chronicle.idle rfl rfl rfl rfl rfl
  | queue => exact chronicle.idle rfl rfl rfl rfl rfl
  | collect => exact chronicle.idle rfl rfl rfl rfl rfl
  | refuse =>
      exact chronicle.idle rfl rfl rfl rfl (by simp [walkNotes, finish, note, RunNote.walk?])
  | withdraw =>
      exact chronicle.idle rfl rfl rfl rfl (by simp [walkNotes, finish, note, RunNote.walk?])
  | start delaying => exact chronicle.start seeded delaying
  | giveUp =>
      exact chronicle.idle rfl rfl rfl rfl (by simp [walkNotes, finish, note, RunNote.walk?])
  | carry present awake eventsEq passage =>
      exact chronicle.carry enrolled timely present awake eventsEq passage
  | retire present awake eventsEq yields instant =>
      exact chronicle.retire enrolled timely present awake eventsEq yields instant

end Chronicle

/-- All that is known of a point of a test and of the journal up to there. -/
structure WellKept
    (plan : RunPlan)
    (state : RunState)
    (journal : List Deed) : Prop extends InOrder plan state where
  timely : state.Timely
  seeded : state.Seeded plan
  chronicle : state.Chronicle plan journal

theorem WellKept.act
    {state : RunState}
    (wellKept : WellKept plan state journal)
    (action : Action plan state deeds state') :
    WellKept plan state' (journal ++ deeds) where
  toInOrder := wellKept.toInOrder.act action
  timely := wellKept.timely.act action
  seeded := wellKept.seeded.act wellKept.serves action
  chronicle := wellKept.chronicle.act wellKept.enrolled wellKept.timely wellKept.seeded action

theorem WellKept.advance
    {state : RunState}
    (wellKept : WellKept plan state journal)
    (nobody : ¬state.CanAct) :
    WellKept plan state.advance journal where
  toInOrder := wellKept.toInOrder.advance
  timely := wellKept.timely.advance nobody
  seeded := by
    rw [advance_eq]
    exact wellKept.seeded
  chronicle := by
    rw [advance_eq]
    have chronicle := wellKept.chronicle
    exact ⟨chronicle.known, chronicle.active, chronicle.ended, chronicle.requests,
      chronicle.notes, chronicle.answered⟩

theorem Chronicle.outset (plan : RunPlan) : Chronicle plan plan.outset [] where
  known := by simp
  active := by simp [RunPlan.outset, initial]
  ended := by simp [RunPlan.outset, initial]
  requests := by simp [RunPlan.outset, initial]
  notes := by simp [RunPlan.outset, initial, walkNotes, RunNote.walk?]
  answered := answeredBy_nil plan.api

theorem Seeded.outset (plan : RunPlan) : plan.outset.Seeded plan := by
  have start : plan.generatorAt 0 = .ofSeed plan.settings.seed := by
    rw [RunPlan.generatorAt, Nat.mul_zero, Generator.skip_zero]
  exact start.symm

theorem WellKept.outset (plan : RunPlan) : WellKept plan plan.outset [] where
  toInOrder := .outset plan
  timely := ⟨nofun, nofun, fun _ => Nat.zero_le _⟩
  seeded := .outset plan
  chronicle := .outset plan

end RunState

namespace RunPlan

open RunState

/-- Every point of a test is well kept in its journal. -/
theorem wellKept_after (plan : RunPlan) (steps : Nat) :
    WellKept plan (plan.after steps) (plan.journal steps) :=
  course_induction (.outset plan) (fun wellKept action => wellKept.act action)
    (fun wellKept nobody _ => wellKept.advance nobody) steps

/-- What holds in the beginning, and is kept wherever a test is well kept, holds at every
point of a test. -/
theorem wellKept_induction
    {plan : RunPlan}
    {motive : RunState → Prop}
    (outset : motive plan.outset)
    (act : ∀ {state journal deeds state'}, WellKept plan state journal → motive state →
      Action plan state deeds state' → motive state')
    (advance : ∀ {state journal}, WellKept plan state journal → motive state →
      ¬state.CanAct → motive state.advance)
    (steps : Nat) :
    motive (plan.after steps) := by
  have both : WellKept plan (plan.after steps) (plan.journal steps) ∧
      motive (plan.after steps) := by
    apply course_induction (motive := fun state journal =>
      WellKept plan state journal ∧ motive state) ⟨.outset plan, outset⟩
    · intro state journal deeds state' holds action
      exact ⟨holds.1.act action, act holds.1 holds.2 action⟩
    · intro state journal holds nobody _
      exact ⟨holds.1.advance nobody, advance holds.1 holds.2 nobody⟩
  exact both.2

end RunPlan
end TransitLoad
