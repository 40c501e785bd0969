import TransitLoad.Proofs.Statistics
import TransitLoad.Proofs.WalkSafety

/-!
# Conservation of stop requests

The statistics of a test and the outcomes of its walkers are kept apart from each
other, and yet agree: there is one sample for every completed walk that chose a stop,
and one failure for every aborted walk that did.
-/

namespace TransitLoad

open Activity WalkStep

/-- Whether a walk chose a stop and was completed. -/
def WalkOutcome.completedAtStop (outcome : WalkOutcome) : Bool :=
  outcome.ending = .completed && Selection.visits outcome.selections

/-- Whether a walk chose a stop and was aborted. -/
def WalkOutcome.abortedAtStop (outcome : WalkOutcome) : Bool :=
  outcome.ending ≠ .completed && Selection.visits outcome.selections

/-- What a whole walk leaves in the statistics agrees with its outcome. -/
theorem Walker.walk_accounted
    {itinerary : Itinerary}
    {walker : Walker}
    (representable : itinerary.pause.IsRepresentable)
    (fresh : walker.selections = [])
    (yields : Yields (walker.walk itinerary) events result) :
    samples events = ((stopAnswer? 5 events).map fun answer => (.stop, answer.elapsed)).toList ∧
      (stopAnswer? 5 events).isSome = result.toOption.any WalkOutcome.completedAtStop ∧
      failures events = (result.toOption.any WalkOutcome.abortedAtStop).toNat := by
  rw [walk, yields_bind] at yields
  obtain ⟨before, later, ⟨ended, after⟩, rfl, walked, yields⟩ := yields
  have accounted : StopsAccounted 5 walker before ended after :=
    stopsAccounted representable walked
  obtain ⟨selections, chosen, success, failure⟩ := accounted.selections
  rw [fresh, List.nil_append] at chosen
  rcases ended with (error | fault) | ending
  · exact absurd rfl (accounted.settled error)
  · simp only [pure_eq_finish, yields_finish] at yields
    obtain ⟨rfl, rfl⟩ := yields
    rw [List.append_nil]
    exact ⟨accounted.samples, success, failure⟩
  · simp only [pure_eq_finish, yields_finish] at yields
    obtain ⟨rfl, rfl⟩ := yields
    rw [List.append_nil]
    refine ⟨accounted.samples, ?_, ?_⟩
    · rw [success]
      cases ending with
      | completed => simp [completes, Except.toOption, WalkOutcome.completedAtStop, chosen]
      | aborted error => simp [completes, Except.toOption, WalkOutcome.completedAtStop]
    · rw [failure]
      cases ending with
      | completed => simp [aborts, Except.toOption, WalkOutcome.abortedAtStop]
      | aborted error => simp [aborts, Except.toOption, WalkOutcome.abortedAtStop, chosen]

/-! ## Requests of stops on timelines -/

/-- Whether a walker was answered with a stop. -/
def Deed.bringsStop (deed : Deed) : Bool :=
  deed.event.exchange?.any fun exchange => exchange.2.isStop

/-- The request of a stop on the timeline of a walker, its sixth one, if it succeeded. -/
def stopDeed? (deeds : List Deed) : Option Deed :=
  ((deeds.filter fun deed => deed.event.exchange?.isSome)[5]?).filter Deed.bringsStop

/-- How long a deed took, by the clock. -/
def Deed.length (deed : Deed) : Duration := .ofMilliseconds (deed.endsAt - deed.time)

/-- What is at some place of a list of images is the image of what is at that place
among those that have one. -/
theorem getElem?_filterMap_eq
    (image : α → Option β)
    (elements : List α)
    (place : Nat) :
    (elements.filterMap image)[place]? =
      ((elements.filter fun element => (image element).isSome)[place]?).bind image := by
  induction elements generalizing place with
  | nil => rfl
  | cons element elements hypothesis =>
      cases imageEq : image element with
      | none =>
          rw [List.filterMap_cons_none imageEq, List.filter_cons_of_neg (by simp [imageEq]),
            hypothesis]
      | some value =>
          rw [List.filterMap_cons_some imageEq, List.filter_cons_of_pos (by simp [imageEq])]
          cases place with
          | zero => simp [imageEq]
          | succ place => simpa using hypothesis place

/-- The answer to the request of a stop took as long as the deed. -/
theorem elapsed_stopAnswer
    {deeds : List Deed}
    {api : Api}
    (answered : AnsweredBy api (deeds.map Deed.event)) :
    (stopAnswer? 5 (deeds.map Deed.event)).map Answer.elapsed =
      (stopDeed? deeds).map Deed.length := by
  have found : (exchanges (deeds.map Deed.event))[5]? =
      ((deeds.filter fun deed => deed.event.exchange?.isSome)[5]?).bind
        fun deed => deed.event.exchange? := by
    rw [exchanges, List.filterMap_map]
    exact getElem?_filterMap_eq _ _ _
  rw [stopAnswer?, found, stopDeed?]
  cases sixth : (deeds.filter fun deed => deed.event.exchange?.isSome)[5]? with
  | none => rfl
  | some deed =>
      have present := (List.mem_filter.mp (List.mem_of_getElem? sixth)).1
      obtain ⟨walker, time, event⟩ := deed
      cases event with
      | exchanged url answer =>
          obtain ⟨place, rfl⟩ := answered url answer (List.mem_map.mpr ⟨_, present, rfl⟩)
          have length : Deed.length ⟨walker, time, .exchanged url (api.answer place url)⟩ =
              (api.answer place url).elapsed := by
            simp only [Deed.length, Deed.endsAt, Event.wait, Nat.add_sub_cancel_left,
              wait_answer]
            rfl
          cases successful : (api.answer place url).isStop <;>
            simp [Option.filter, Deed.bringsStop, successful, length]
      | rested => rfl
      | noted => rfl

namespace RunState

/-! ## The statistics and the outcomes -/

/-- Outcomes are counted among the walkers that ended. -/
theorem countP_outcomes (state : RunState) (property : WalkOutcome → Bool) :
    state.summary.outcomes.countP property =
      state.ended.countP fun walk => walk.result.toOption.any property := by
  have perm : state.endedInOrder.Perm state.ended := List.mergeSort_perm _ _
  change (state.endedInOrder.filterMap fun walk => walk.result.toOption).countP property = _
  rw [List.countP_filterMap, perm.countP_eq]
  apply List.countP_congr
  intro walk _
  cases walk.result.toOption <;> rfl

/-- What a walker leaves in the statistics is what is on its timeline. -/
structure Tallied (journal : List Deed) (walk : EndedWalk) : Prop where
  samples : samples ((timeline journal walk.walker).map Deed.event) =
    ((stopDeed? (timeline journal walk.walker)).map fun deed => (.stop, deed.length)).toList
  success : (stopDeed? (timeline journal walk.walker)).isSome =
    walk.result.toOption.any WalkOutcome.completedAtStop
  failures : failures ((timeline journal walk.walker).map Deed.event) =
    (walk.result.toOption.any WalkOutcome.abortedAtStop).toNat

theorem Chronicle.tallied
    {state : RunState}
    {walk : EndedWalk}
    (chronicle : Chronicle plan state journal)
    (present : walk ∈ state.ended) :
    Tallied journal walk := by
  have elapsed := elapsed_stopAnswer (chronicle.answered_timeline walk.walker)
  obtain ⟨sampled, success, failure⟩ := Walker.walk_accounted
    plan.settings.actionPause_isRepresentable rfl (chronicle.ended walk present).yields
  refine ⟨?_, ?_, failure⟩
  · have split (answer? : Option Answer) :
        answer?.map (fun answer => (ResourceKind.stop, answer.elapsed)) =
          (answer?.map Answer.elapsed).map (Prod.mk .stop) := by
      cases answer? <;> rfl
    rw [sampled, split, elapsed, Option.map_map]
    rfl
  · have same := congrArg Option.isSome elapsed
    rw [Option.isSome_map, Option.isSome_map] at same
    rw [← same, success]

/-- The samples of several walkers, one walker after another. -/
theorem samples_timelines
    {walks : List EndedWalk}
    (tallied : ∀ walk ∈ walks, Tallied journal walk) :
    samples ((walks.flatMap fun walk => timeline journal walk.walker).map Deed.event) =
      (walks.filterMap fun walk => stopDeed? (timeline journal walk.walker)).map
        fun deed => (.stop, deed.length) := by
  induction walks with
  | nil => rfl
  | cons walk walks hypothesis =>
      have later := hypothesis fun other present =>
        tallied other (List.mem_cons_of_mem _ present)
      rw [List.flatMap_cons, List.map_append, samples_append, later,
        (tallied walk (List.mem_cons_self ..)).samples]
      cases stop : stopDeed? (timeline journal walk.walker) <;>
        simp only [List.filterMap_cons, stop] <;> rfl

/-- The failures of several walkers. -/
theorem failures_timelines
    {walks : List EndedWalk}
    (tallied : ∀ walk ∈ walks, Tallied journal walk) :
    failures ((walks.flatMap fun walk => timeline journal walk.walker).map Deed.event) =
      walks.countP fun walk => walk.result.toOption.any WalkOutcome.abortedAtStop := by
  induction walks with
  | nil => rfl
  | cons walk walks hypothesis =>
      have later := hypothesis fun other present =>
        tallied other (List.mem_cons_of_mem _ present)
      rw [List.flatMap_cons, List.map_append, failures_append, later,
        (tallied walk (List.mem_cons_self ..)).failures, List.countP_cons, Nat.add_comm]
      congr 1
      cases walk.result.toOption.any WalkOutcome.abortedAtStop <;> rfl

/-- Once a test is over, the timelines of the walkers that ended make up the journal. -/
theorem WellKept.perm_timelines_ended
    {state : RunState}
    (wellKept : WellKept plan state journal)
    (stopped : state.isOver = true) :
    journal.Perm (state.ended.flatMap fun walk => timeline journal walk.walker) := by
  rw [← List.flatMap_map]
  exact (perm_timelines wellKept.chronicle.known).trans
    (List.Perm.flatMap_right _ (wellKept.perm_ended stopped).symm)

theorem Chronicle.walkNotes_eq
    {state : RunState}
    (chronicle : Chronicle plan state journal) :
    state.walkNotes = entries (journal.map Deed.event) := by
  rw [chronicle.notes, entries, List.filterMap_map]
  rfl

/-- The samples of a test that is over are the requests of stops that succeeded. -/
theorem WellKept.samples_perm
    {state : RunState}
    (wellKept : WellKept plan state journal)
    (stopped : state.isOver = true) :
    (samples (journal.map Deed.event)).Perm
      ((state.ended.filterMap fun walk => stopDeed? (timeline journal walk.walker)).map
        fun deed => (.stop, deed.length)) := by
  rw [← samples_timelines fun walk present => wellKept.chronicle.tallied present]
  have parted := (wellKept.perm_timelines_ended stopped).map Deed.event
  exact (parted.filterMap _).filterMap _

theorem WellKept.latencies_perm
    {state : RunState}
    (wellKept : WellKept plan state journal)
    (stopped : state.isOver = true) :
    ((samples (journal.map Deed.event)).map Prod.snd).Perm
      (state.ended.filterMap fun walk =>
        (stopDeed? (timeline journal walk.walker)).map Deed.length) := by
  have perm := (wellKept.samples_perm stopped).map Prod.snd
  rwa [List.map_map, List.map_filterMap] at perm

/-- Nothing but the latencies of stops is on the shelves of a test that is over. -/
theorem WellKept.shelves_collected
    {state : RunState}
    (wellKept : WellKept plan state journal)
    (stopped : state.isOver = true) :
    state.collected.shelves =
      Collector.stopShelves ((samples (journal.map Deed.event)).map Prod.snd) := by
  have notes := wellKept.chronicle.walkNotes_eq
  have stopsOnly : ∀ kind latency, .sample kind latency ∈ state.walkNotes → kind = .stop := by
    intro kind latency present
    rw [notes] at present
    have listed : (kind, latency) ∈ samples (journal.map Deed.event) :=
      List.mem_filterMap.mpr ⟨_, present, rfl⟩
    obtain ⟨deed, _, same⟩ :=
      List.mem_map.mp ((wellKept.samples_perm stopped).mem_iff.mp listed)
    exact (congrArg Prod.fst same).symm
  have empty : Collector.empty.shelves = Collector.stopShelves [] := rfl
  rw [collected_eq, Collector.shelves_foldl_take stopsOnly empty, notes]
  rfl

/-- The failures of a test that is over are the aborted walks that chose a stop. -/
theorem WellKept.failures_report
    {state : RunState}
    (wellKept : WellKept plan state journal)
    (stopped : state.isOver = true) :
    state.collected.report.failures =
      UInt64.ofNat (state.summary.outcomes.countP WalkOutcome.abortedAtStop) := by
  have parted := (wellKept.perm_timelines_ended stopped).map Deed.event
  have failed : (entries (journal.map Deed.event)).count .failure =
      state.ended.countP fun walk =>
        walk.result.toOption.any WalkOutcome.abortedAtStop := by
    rw [← failures_timelines fun walk present => wellKept.chronicle.tallied present]
    exact (parted.filterMap _).count_eq WalkNote.failure
  rw [Collector.failures_report, collected_eq, Collector.failures_foldl_take,
    wellKept.chronicle.walkNotes_eq, failed, countP_outcomes]
  exact UInt64.zero_add _

end RunState

namespace RunPlan

open RunState

/-- Conservation of stop requests.  When a test is over, the number of its samples is
the number of completed walks that chose a stop, and the number of its failures, as a
number of 64 bits, that of the aborted walks that did.  No label but that of stops is
reported, and it is if and only if there is a sample.  The samples are the successful
requests of stops, one of each walker that has one, and each is as long as the clock
ran between the request and its answer, which are part of a timeline without breaks. -/
theorem stops_conserved
    {plan : RunPlan}
    (stopped : (plan.after steps).isOver = true) :
    ∃ latencies : List Duration,
      (plan.after steps).summary.stats.labels =
        (if latencies = [] then []
          else [(ResourceKind.stop.name, .ofSamples latencies)]) ∧
      (Latency.Summary.ofSamples latencies).count =
        (plan.after steps).summary.outcomes.countP WalkOutcome.completedAtStop ∧
      (plan.after steps).summary.stats.failures =
        UInt64.ofNat
          ((plan.after steps).summary.outcomes.countP WalkOutcome.abortedAtStop) ∧
      (Latency.Summary.ofSamples latencies).samples =
        latencies.map Duration.toMilliseconds ∧
      latencies.Perm
        ((plan.after steps).ended.filterMap fun walk =>
          (stopDeed? (timeline (plan.journal steps) walk.walker)).map Deed.length) ∧
      (∀ walk ∈ (plan.after steps).ended,
        Deed.Unbroken walk.startedAt (timeline (plan.journal steps) walk.walker)
          walk.endedAt) ∧
      (plan.after steps).requests.toList =
        (plan.journal steps).filterMap Deed.requested? := by
  have wellKept := plan.wellKept_after steps
  generalize plan.after steps = state at stopped wellKept ⊢
  generalize plan.journal steps = journal at wellKept ⊢
  have chronicle := wellKept.chronicle
  have latencies := wellKept.latencies_perm stopped
  refine ⟨(samples (journal.map Deed.event)).map Prod.snd,
    Collector.labels_report (wellKept.shelves_collected stopped), ?_,
    wellKept.failures_report stopped, rfl, latencies,
    fun walk present => (chronicle.ended walk present).unbroken, chronicle.requests⟩
  rw [Latency.Summary.count_ofSamples, latencies.length_eq,
    List.length_filterMap_eq_countP, countP_outcomes]
  apply List.countP_congr
  intro walk present
  rw [Option.isSome_map, (chronicle.tallied present).success]

/-- A test of a second with two walkers, of which only the first one finds its stop. -/
def stopFoundOnce : RunPlan where
  settings := { oneWalker.settings with
    minSpawnDelay := 400
    maxSpawnDelay := 400
    minActionPause := 0
    maxActionPause := 0 }
  api := fun place =>
    oneStop (if place < 6 then .body (Json.utf8 "\x7b\x7d") else .status 404) place
  order := id

/-- The first walker of `stopFoundOnce` leaves a sample, the five milliseconds of its
request of a stop, and the second one leaves a failure. -/
theorem stops_conserved_stopFoundOnce :
    (stopFoundOnce.after 36).isOver = true ∧
      (stopFoundOnce.after 36).summary.outcomes.countP WalkOutcome.completedAtStop = 1 ∧
      (stopFoundOnce.after 36).summary.outcomes.countP WalkOutcome.abortedAtStop = 1 ∧
      (stopFoundOnce.after 36).summary.stats.failures = 1 ∧
      (stopFoundOnce.after 36).summary.stats.labels =
        [(ResourceKind.stop.name, .ofSamples [.ofMilliseconds 5])] := by
  have evaluated : (stopFoundOnce.after 36).isOver = true ∧
      ((stopFoundOnce.after 36).ended.countP fun walk =>
        walk.result.toOption.any WalkOutcome.completedAtStop) = 1 ∧
      ((stopFoundOnce.after 36).ended.countP fun walk =>
        walk.result.toOption.any WalkOutcome.abortedAtStop) = 1 ∧
      ((stopFoundOnce.after 36).ended.filterMap fun walk =>
        (stopDeed? (timeline (stopFoundOnce.journal 36) walk.walker)).map Deed.length) =
          [.ofMilliseconds 5] := by decide +kernel
  obtain ⟨stopped, completed, aborted, lengths⟩ := evaluated
  rw [← countP_outcomes] at completed aborted
  obtain ⟨latencies, labels, _, failures, _, perm, _⟩ := stops_conserved stopped
  rw [lengths, List.perm_singleton] at perm
  rw [perm, if_neg (List.cons_ne_nil _ _)] at labels
  rw [aborted] at failures
  exact ⟨stopped, completed, aborted, failures, labels⟩

end RunPlan
end TransitLoad
