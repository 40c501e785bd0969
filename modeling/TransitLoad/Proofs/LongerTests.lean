import TransitLoad.Proofs.FaultIsolation
import TransitLoad.Proofs.Peak
import TransitLoad.Proofs.WalkerAccounts

/-!
# Longer tests

The walkers of a test are the customers of a queue, which knows nothing of the deadline: that
only decides how many of them are started.  A longer test therefore has all walkers of a
shorter one, which start and end as they do there, and perhaps some later ones.
-/

namespace TransitLoad

open Activity

/-- Before an API that answers by the URL alone, an activity can go in one way only. -/
theorem Activity.yields_unique
    {api : Api}
    {activity : Activity Note α}
    (fixed : api.IsFixed)
    (yields : Yields activity events result)
    (answered : AnsweredBy api events)
    (yields' : Yields activity events' result')
    (answered' : AnsweredBy api events') :
    events' = events ∧ result' = result := by
  induction activity generalizing events events' with
  | finish value =>
      obtain ⟨rfl, rfl⟩ := yields_finish.mp yields
      exact yields_finish.mp yields'
  | request url resume hypothesis =>
      obtain ⟨answer, later, rfl, goesOn⟩ := yields_request.mp yields
      obtain ⟨answer', later', rfl, goesOn'⟩ := yields_request.mp yields'
      obtain ⟨place, rfl⟩ := answered url answer (List.mem_cons_self ..)
      obtain ⟨place', rfl⟩ := answered' url answer' (List.mem_cons_self ..)
      rw [fixed.answer_eq place' place] at goesOn' ⊢
      obtain ⟨rfl, same⟩ := hypothesis _ goesOn answered.of_cons goesOn' answered'.of_cons
      exact ⟨rfl, same⟩
  | pause length resume hypothesis =>
      obtain ⟨later, rfl, goesOn⟩ := yields_pause.mp yields
      obtain ⟨later', rfl, goesOn'⟩ := yields_pause.mp yields'
      obtain ⟨rfl, same⟩ := hypothesis goesOn answered.of_cons goesOn' answered'.of_cons
      exact ⟨rfl, same⟩
  | note entry resume hypothesis =>
      obtain ⟨later, rfl, goesOn⟩ := yields_note.mp yields
      obtain ⟨later', rfl, goesOn'⟩ := yields_note.mp yields'
      obtain ⟨rfl, same⟩ := hypothesis goesOn answered.of_cons goesOn' answered'.of_cons
      exact ⟨rfl, same⟩

namespace Collector

theorem samples_of_stopShelves
    {collector : Collector}
    {latencies : List Duration}
    (shelves : collector.shelves = stopShelves latencies) :
    collector.samples .stop = latencies := by
  rw [samples, shelves]
  cases latencies <;> rfl

theorem label?_of_stopShelves
    {collector : Collector}
    {latencies : List Duration}
    (shelves : collector.shelves = stopShelves latencies) :
    collector.report.label? .stop =
      if latencies = [] then none else some (.ofSamples latencies) := by
  rw [StatsReport.label?, labels_report shelves]
  split_ifs <;> rfl

end Collector

namespace RunPlan

/-- The same test for another number of seconds, and with walkers that may act in another
order. -/
def withDuration (plan : RunPlan) (seconds : UInt64) (order : Nat → Nat) : RunPlan where
  settings := { plan.settings with durationSeconds := seconds }
  api := plan.api
  order := order

theorem queue_withDuration
    (plan : RunPlan)
    (seconds : UInt64)
    (order : Nat → Nat) :
    (plan.withDuration seconds order).queue = plan.queue := rfl

theorem deadline_le_withDuration
    {plan : RunPlan}
    {seconds : UInt64}
    (longer : plan.settings.durationSeconds ≤ seconds)
    (order : Nat → Nat) :
    plan.deadline ≤ (plan.withDuration seconds order).deadline :=
  Nat.mul_le_mul_right 1000 (UInt64.le_iff_toNat_le.mp longer)

end RunPlan

namespace RunState

section

variable {plan : RunPlan} {seconds : UInt64} {order : Nat → Nat} {state state' : RunState}
  {journal journal' : List Deed} {walk walk' : EndedWalk}

/-! ## Walkers -/

/-- A walker does the same in both tests. -/
theorem Chronicle.events_eq
    (chronicle : Chronicle plan state journal)
    (chronicle' : Chronicle (plan.withDuration seconds order) state' journal')
    (fixed : plan.api.IsFixed)
    (present : walk ∈ state.ended)
    (present' : walk' ∈ state'.ended)
    (same : walk'.walker = walk.walker) :
    (timeline journal' walk.walker).map Deed.event =
        (timeline journal walk.walker).map Deed.event ∧
      walk'.result = walk.result := by
  have yields' : Yields (plan.walkOf walk'.walker)
      ((timeline journal' walk'.walker).map Deed.event) walk'.result :=
    (chronicle'.ended walk' present').yields
  rw [same] at yields'
  exact yields_unique fixed (chronicle.ended walk present).yields
    (chronicle.answered_timeline _) yields' (chronicle'.answered_timeline _)

/-- A walker that ends in both tests starts and ends at the same times and in the same
way. -/
theorem Chronicle.ended_eq
    (chronicle : Chronicle plan state journal)
    (chronicle' : Chronicle (plan.withDuration seconds order) state' journal')
    (fixed : plan.api.IsFixed)
    (follows : state.Follows plan.queue deadline)
    (follows' : state'.Follows plan.queue deadline')
    (present : walk ∈ state.ended)
    (present' : walk' ∈ state'.ended)
    (same : walk'.walker = walk.walker) :
    walk' = walk := by
  have result := (chronicle.events_eq chronicle' fixed present present' same).2
  have startedAt := (follows'.startedAt walk' present').trans
    ((congrArg plan.queue.start same).trans (follows.startedAt walk present).symm)
  have endedAt := (follows'.endedAt walk' present').trans
    ((congrArg plan.queue.finish same).trans (follows.endedAt walk present).symm)
  obtain ⟨_, _, _, _⟩ := walk
  obtain ⟨_, _, _, _⟩ := walk'
  simp only at same startedAt endedAt result
  rw [same, startedAt, endedAt, result]

/-- What is known of a test that is over before an API that answers by the URL alone. -/
structure Concluded
    (plan : RunPlan)
    (state : RunState)
    (journal : List Deed) : Prop extends WellKept plan state journal where
  stopped : state.isOver = true
  follows : state.Follows plan.queue plan.deadline

theorem Concluded.walkers
    (concluded : Concluded plan state journal) :
    state.endedInOrder.map EndedWalk.walker = List.range state.spawned :=
  concluded.walkers_endedInOrder concluded.stopped

theorem Concluded.length_endedInOrder
    (concluded : Concluded plan state journal) :
    state.endedInOrder.length = state.spawned := by
  rw [← List.length_map EndedWalk.walker, concluded.walkers, List.length_range]

theorem Concluded.walker_getElem
    (concluded : Concluded plan state journal)
    (inside : place < state.endedInOrder.length) :
    state.endedInOrder[place].walker = place := by
  have mapped := List.getElem_of_eq concluded.walkers ((List.length_map _).symm ▸ inside)
  rwa [List.getElem_map, List.getElem_range] at mapped

theorem Concluded.spawned_lt_iff
    (concluded : Concluded plan state journal)
    (walker : Nat) :
    walker < state.spawned ↔ plan.queue.start walker < plan.deadline := by
  rw [← concluded.follows.started, (concluded.perm_ended concluded.stopped).mem_iff,
    List.mem_range]

/-- A longer test starts no fewer walkers. -/
theorem Concluded.spawned_le
    (concluded : Concluded plan state journal)
    (concluded' : Concluded (plan.withDuration seconds order) state' journal')
    (longer : plan.deadline ≤ (plan.withDuration seconds order).deadline) :
    state.spawned ≤ state'.spawned := by
  by_contra fewer
  have early := (concluded.spawned_lt_iff _).mp (Nat.not_le.mp fewer)
  exact Nat.lt_irrefl _ ((concluded'.spawned_lt_iff _).mpr (early.trans_le longer))

/-- In order, the walks of a longer test begin with those of a shorter one. -/
theorem Concluded.prefix_endedInOrder
    (concluded : Concluded plan state journal)
    (concluded' : Concluded (plan.withDuration seconds order) state' journal')
    (fixed : plan.api.IsFixed)
    (longer : plan.deadline ≤ (plan.withDuration seconds order).deadline) :
    state.endedInOrder <+: state'.endedInOrder := by
  -- In both lists the walker at a place is the one with that number.
  rw [List.prefix_iff_getElem?]
  intro place inside
  have inside' : place < state'.endedInOrder.length := by
    rw [concluded.length_endedInOrder] at inside
    rw [concluded'.length_endedInOrder]
    exact inside.trans_le (concluded.spawned_le concluded' longer)
  rw [List.getElem?_eq_getElem inside']
  exact congrArg some (concluded.chronicle.ended_eq concluded'.chronicle fixed concluded.follows
    concluded'.follows (state.endedInOrder_perm.mem_iff.mp (List.getElem_mem inside))
    (state'.endedInOrder_perm.mem_iff.mp (List.getElem_mem inside'))
    ((concluded'.walker_getElem inside').trans (concluded.walker_getElem inside).symm))

/-- The walks that a longer test has in addition start no earlier than the deadline of the
shorter one. -/
theorem Concluded.deadline_le_startedAt
    (concluded : Concluded plan state journal)
    (concluded' : Concluded (plan.withDuration seconds order) state' journal')
    (walks : state'.endedInOrder = state.endedInOrder ++ later)
    (present : walk ∈ later) :
    plan.deadline ≤ walk.startedAt := by
  -- The numbers that the shorter test gives out are taken by its own walks.
  have once : ((state.endedInOrder ++ later).map EndedWalk.walker).Nodup := by
    rw [← walks, concluded'.walkers]
    exact List.nodup_range
  rw [List.map_append, concluded.walkers] at once
  have elsewhere : walk.walker ∉ List.range state.spawned := fun listed =>
    List.disjoint_of_nodup_append once listed (List.mem_map_of_mem present)
  have listed' : walk ∈ state'.ended := by
    rw [← state'.endedInOrder_perm.mem_iff, walks]
    exact List.mem_append_right _ present
  rw [List.mem_range, concluded.spawned_lt_iff, Nat.not_lt] at elsewhere
  exact elsewhere.trans_eq (concluded'.follows.startedAt walk listed').symm

/-! ## Counts -/

theorem perm_ended_append
    (walks : state'.endedInOrder = state.endedInOrder ++ later) :
    state'.ended.Perm (state.ended ++ later) := by
  have perm := state'.endedInOrder_perm.symm
  rw [walks] at perm
  exact perm.trans (state.endedInOrder_perm.append_right later)

/-- The outcomes of the additional walks come last. -/
theorem outcomes_append
    (walks : state'.endedInOrder = state.endedInOrder ++ later) :
    state'.summary.outcomes =
      state.summary.outcomes ++ later.filterMap fun walk => walk.result.toOption := by
  change state'.endedInOrder.filterMap _ = _
  rw [walks, List.filterMap_append]
  rfl

theorem completed_le
    (walks : state'.endedInOrder = state.endedInOrder ++ later) :
    state.summary.completed ≤ state'.summary.completed := by
  change state.summary.outcomes.countP _ ≤ state'.summary.outcomes.countP _
  rw [outcomes_append walks, List.countP_append]
  exact Nat.le_add_right _ _

theorem aborted_le
    (walks : state'.endedInOrder = state.endedInOrder ++ later) :
    state.summary.aborted ≤ state'.summary.aborted := by
  let completed (outcome : WalkOutcome) : Bool := outcome.ending = .completed
  change state.summary.outcomes.length - state.summary.outcomes.countP completed ≤
    state'.summary.outcomes.length - state'.summary.outcomes.countP completed
  have more : (later.filterMap fun walk => walk.result.toOption).countP completed ≤
    (later.filterMap fun walk => walk.result.toOption).length := List.countP_le_length
  rw [outcomes_append walks, List.countP_append, List.length_append]
  omega

theorem panicked_le
    (walks : state'.endedInOrder = state.endedInOrder ++ later) :
    state.summary.panicked ≤ state'.summary.panicked := by
  change state.ended.countP _ ≤ state'.ended.countP _
  rw [(perm_ended_append walks).countP_eq, List.countP_append]
  exact Nat.le_add_right _ _

/-! ## Statistics -/

/-- The request of a stop takes as long in both tests. -/
theorem Chronicle.stopLength_eq
    (chronicle : Chronicle plan state journal)
    (chronicle' : Chronicle (plan.withDuration seconds order) state' journal')
    (fixed : plan.api.IsFixed)
    (present : walk ∈ state.ended)
    (present' : walk ∈ state'.ended) :
    (stopDeed? (timeline journal' walk.walker)).map Deed.length =
      (stopDeed? (timeline journal walk.walker)).map Deed.length := by
  rw [← elapsed_stopAnswer (chronicle.answered_timeline walk.walker),
    ← elapsed_stopAnswer (chronicle'.answered_timeline walk.walker),
    (chronicle.events_eq chronicle' fixed present present' rfl).1]

/-- The latencies of a shorter test are among those of a longer one. -/
theorem Concluded.latencies_subperm
    (concluded : Concluded plan state journal)
    (concluded' : Concluded (plan.withDuration seconds order) state' journal')
    (fixed : plan.api.IsFixed)
    (walks : state'.endedInOrder = state.endedInOrder ++ later) :
    ((samples (journal.map Deed.event)).map Prod.snd).Subperm
      ((samples (journal'.map Deed.event)).map Prod.snd) := by
  have both := perm_ended_append walks
  have same : (state.ended.filterMap fun walk =>
      (stopDeed? (timeline journal' walk.walker)).map Deed.length) =
        state.ended.filterMap fun walk =>
          (stopDeed? (timeline journal walk.walker)).map Deed.length := by
    refine List.filterMap_congr fun walk present => ?_
    exact concluded.chronicle.stopLength_eq concluded'.chronicle fixed present
      (both.mem_iff.mpr (List.mem_append_left _ present))
  have latencies := concluded.latencies_perm concluded.stopped
  have latencies' := (concluded'.latencies_perm concluded'.stopped).trans (both.filterMap _)
  rw [List.filterMap_append, same] at latencies'
  exact latencies.subperm.trans
    ((List.sublist_append_left _ _).subperm.trans latencies'.symm.subperm)

theorem Concluded.samples_subperm
    (concluded : Concluded plan state journal)
    (concluded' : Concluded (plan.withDuration seconds order) state' journal')
    (fixed : plan.api.IsFixed)
    (walks : state'.endedInOrder = state.endedInOrder ++ later) :
    (state.collected.samples .stop).Subperm (state'.collected.samples .stop) := by
  rw [Collector.samples_of_stopShelves (concluded.shelves_collected concluded.stopped),
    Collector.samples_of_stopShelves (concluded'.shelves_collected concluded'.stopped)]
  exact concluded.latencies_subperm concluded' fixed walks

/-- What a shorter test reports on stops, a longer one reports too, with more samples. -/
theorem Concluded.exists_reported
    {summary : Latency.Summary}
    (concluded : Concluded plan state journal)
    (concluded' : Concluded (plan.withDuration seconds order) state' journal')
    (fixed : plan.api.IsFixed)
    (walks : state'.endedInOrder = state.endedInOrder ++ later)
    (found : state.summary.stats.label? .stop = some summary) :
    ∃ summary', state'.summary.stats.label? .stop = some summary' ∧
      summary.count ≤ summary'.count ∧ summary.samples.Subperm summary'.samples := by
  have subperm := concluded.latencies_subperm concluded' fixed walks
  have label := Collector.label?_of_stopShelves (concluded.shelves_collected concluded.stopped)
  have label' :=
    Collector.label?_of_stopShelves (concluded'.shelves_collected concluded'.stopped)
  generalize (samples (journal.map Deed.event)).map Prod.snd = latencies at subperm label
  generalize (samples (journal'.map Deed.event)).map Prod.snd = latencies' at subperm label'
  have shown := label.symm.trans found
  split_ifs at shown with nothing
  cases shown
  have something : latencies' ≠ [] := by
    rintro rfl
    exact nothing (List.subperm_nil.mp subperm)
  refine ⟨.ofSamples latencies', label'.trans (if_neg something), ?_, ?_⟩
  · rw [Latency.Summary.count_ofSamples, Latency.Summary.count_ofSamples]
    exact subperm.length_le
  · obtain ⟨arranged, perm, sublist⟩ := subperm
    exact ⟨arranged.map _, perm.map _, sublist.map _⟩

/-- The failures of the additional walks add up to those of a shorter test. -/
theorem Concluded.failures_eq
    (concluded : Concluded plan state journal)
    (concluded' : Concluded (plan.withDuration seconds order) state' journal')
    (walks : state'.endedInOrder = state.endedInOrder ++ later) :
    state'.summary.stats.failures = state.summary.stats.failures +
      UInt64.ofNat
        ((later.filterMap fun walk => walk.result.toOption).countP WalkOutcome.abortedAtStop) := by
  have failures : state.summary.stats.failures = _ :=
    concluded.failures_report concluded.stopped
  have failures' : state'.summary.stats.failures = _ :=
    concluded'.failures_report concluded'.stopped
  rw [failures', failures, outcomes_append walks, List.countP_append, UInt64.ofNat_add]

end

end RunState

/-! ## Tests -/

namespace RunPlan

open RunState

/-- A test begins with the walkers of a shorter one, which start and end in it as they do
there, and goes on with later ones, which start when the shorter one starts nobody any
more. -/
structure Prolongs
    (plan : RunPlan)
    (later : List EndedWalk)
    (state state' : RunState) : Prop where
  walkers : state.endedInOrder.map EndedWalk.walker = List.range state.summary.spawned
  walkers' : state'.endedInOrder.map EndedWalk.walker = List.range state'.summary.spawned
  walks : state'.endedInOrder = state.endedInOrder ++ later
  early : ∀ walk ∈ state.endedInOrder, walk.startedAt < plan.deadline
  late : ∀ walk ∈ later, plan.deadline ≤ walk.startedAt
  outcomes : state'.summary.outcomes =
    state.summary.outcomes ++ later.filterMap fun walk => walk.result.toOption
  spawned : state.summary.spawned ≤ state'.summary.spawned
  completed : state.summary.completed ≤ state'.summary.completed
  aborted : state.summary.aborted ≤ state'.summary.aborted
  panicked : state.summary.panicked ≤ state'.summary.panicked
  peak : state.summary.peakConcurrency ≤ state'.summary.peakConcurrency
  /-- Failures are a number of 64 bits, which they exceed only in a test of as many walkers. -/
  failures : state'.summary.stats.failures = state.summary.stats.failures +
    UInt64.ofNat
      ((later.filterMap fun walk => walk.result.toOption).countP WalkOutcome.abortedAtStop)
  fewerFailures : state'.summary.spawned < UInt64.size →
    state.summary.stats.failures ≤ state'.summary.stats.failures
  samples : (state.collected.samples .stop).Subperm (state'.collected.samples .stop)
  reported : ∀ summary, state.summary.stats.label? .stop = some summary →
    ∃ summary', state'.summary.stats.label? .stop = some summary' ∧
      summary.count ≤ summary'.count ∧ summary.samples.Subperm summary'.samples

theorem concluded_of_finalState
    {plan : RunPlan}
    (fixed : plan.api.IsFixed)
    (ends : plan.finalState = .ok state) :
    Concluded plan state (plan.journal plan.stepBound) := by
  have follows := follows_of_finalState fixed ends
  obtain ⟨_, rfl, stopped⟩ := isOver_of_finalState ends
  exact ⟨plan.wellKept_after _, stopped, follows⟩

/-- The peak of a longer test is no lower. -/
theorem peak_le_withDuration
    {plan : RunPlan}
    {seconds : UInt64}
    {order : Nat → Nat}
    (fixed : plan.api.IsFixed)
    (delayed : 1 ≤ plan.settings.minSpawnDelay.toNat)
    (longer : plan.deadline ≤ (plan.withDuration seconds order).deadline)
    (ends : plan.finalState = .ok state)
    (ends' : (plan.withDuration seconds order).finalState = .ok state') :
    state.summary.peakConcurrency ≤ state'.summary.peakConcurrency := by
  have fixed' : (plan.withDuration seconds order).api.IsFixed := fixed
  have delayed' : 1 ≤ (plan.withDuration seconds order).settings.minSpawnDelay.toNat := delayed
  obtain ⟨customers, peak, admitted⟩ := exists_peak_eq fixed delayed ends
  obtain ⟨customers', peak', admitted'⟩ := exists_peak_eq fixed' delayed' ends'
  rw [peak, peak', queue_withDuration]
  refine plan.queue.peak_mono ?_
  by_contra fewer
  have early := (admitted _).mp (Nat.not_le.mp fewer)
  exact Nat.lt_irrefl _ ((admitted' _).mpr (early.trans_le longer))

theorem fewer_failures
    {plan other : RunPlan}
    (ends : plan.finalState = .ok state)
    (ends' : other.finalState = .ok state')
    (walks : state'.endedInOrder = state.endedInOrder ++ later)
    (spawned : state.summary.spawned ≤ state'.summary.spawned)
    (countable : state'.summary.spawned < UInt64.size) :
    state.summary.stats.failures ≤ state'.summary.stats.failures := by
  obtain ⟨_, rfl, stopped⟩ := isOver_of_finalState ends
  obtain ⟨_, rfl, stopped'⟩ := isOver_of_finalState ends'
  rw [UInt64.le_iff_toNat_le, toNat_failures stopped (spawned.trans_lt countable),
    toNat_failures stopped' countable, outcomes_append walks, List.countP_append]
  exact Nat.le_add_right _ _

/-- A longer test extends a shorter one.  Let two tests before an API that answers by the
URL alone differ in their numbers of seconds, and perhaps in the order in which walkers act.
Then the walkers of the shorter one are those of the longer one that start before the
shorter deadline, under the same numbers, at the same times and with the same outcomes.  So
no count of walkers, no peak and no number of failures or samples is lower in the longer
test, and its samples contain those of the shorter one. -/
theorem longer_test_extends
    {plan : RunPlan}
    {seconds : UInt64}
    {order : Nat → Nat}
    (valid : plan.settings.validate = .ok ())
    (valid' : (plan.withDuration seconds order).settings.validate = .ok ())
    (delayed : 1 ≤ plan.settings.minSpawnDelay.toNat)
    (fixed : plan.api.IsFixed)
    (longer : plan.settings.durationSeconds ≤ seconds) :
    ∃ state state' later, plan.finalState = .ok state ∧
      (plan.withDuration seconds order).finalState = .ok state' ∧
      plan.Prolongs later state state' := by
  have isValid := plan.settings.validate_eq_ok.mp valid
  have isValid' := (plan.withDuration seconds order).settings.validate_eq_ok.mp valid'
  obtain ⟨state, ends⟩ := exists_finalState isValid delayed
  obtain ⟨state', ends'⟩ := exists_finalState isValid' delayed
  have later := deadline_le_withDuration longer order
  have concluded := concluded_of_finalState fixed ends
  have fixed' : (plan.withDuration seconds order).api.IsFixed := fixed
  have concluded' := concluded_of_finalState fixed' ends'
  obtain ⟨more, appended⟩ := concluded.prefix_endedInOrder concluded' fixed later
  have walks := appended.symm
  have spawned := concluded.spawned_le concluded' later
  refine ⟨state, state', more, ends, ends', ?_⟩
  constructor
  · exact concluded.walkers
  · exact concluded'.walkers
  · exact walks
  · intro walk present
    have listed := state.endedInOrder_perm.mem_iff.mp present
    rw [concluded.follows.startedAt walk listed]
    exact (concluded.follows.started _).mp (List.mem_map_of_mem listed)
  · exact fun walk present => concluded.deadline_le_startedAt concluded' walks present
  · exact outcomes_append walks
  · exact spawned
  · exact completed_le walks
  · exact aborted_le walks
  · exact panicked_le walks
  · exact peak_le_withDuration fixed delayed later ends ends'
  · exact concluded.failures_eq concluded' walks
  · exact fewer_failures ends ends' walks spawned
  · exact concluded.samples_subperm concluded' fixed walks
  · exact fun summary found => concluded.exists_reported concluded' fixed walks found

/-- With another second, `oneWalker` starts two more walkers, behind the only one of the
shorter test. -/
theorem longer_test_extends_oneWalker :
    oneWalker.settings.validate = .ok () ∧
      (oneWalker.withDuration 2 id).settings.validate = .ok () ∧
      1 ≤ oneWalker.settings.minSpawnDelay.toNat ∧
      oneWalker.api.IsFixed ∧
      oneWalker.settings.durationSeconds ≤ 2 ∧
      (oneWalker.after 8).isOver = true ∧
      (oneWalker.after 8).summary.spawned = 1 ∧
      ((oneWalker.withDuration 2 id).after 20).isOver = true ∧
      ((oneWalker.withDuration 2 id).after 20).summary.spawned = 3 ∧
      ∃ state state' later, oneWalker.finalState = .ok state ∧
        (oneWalker.withDuration 2 id).finalState = .ok state' ∧
        oneWalker.Prolongs later state state' := by
  -- One evaluation of the longer test.
  have evaluated : ((oneWalker.withDuration 2 id).after 20).isOver = true ∧
      ((oneWalker.withDuration 2 id).after 20).summary.spawned = 3 := by decide +kernel
  exact ⟨rfl, rfl, by decide, fun _ _ _ => rfl, by decide, oneWalker_isOver, by decide +kernel,
    evaluated.1, evaluated.2,
    longer_test_extends rfl rfl (by decide) (fun _ _ _ => rfl) (by decide)⟩

end RunPlan
end TransitLoad
