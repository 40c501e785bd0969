import TransitLoad.Proofs.LoadIndependence
import TransitLoad.Proofs.StopConservation
import TransitLoad.Proofs.WalkSafety

/-!
# Every walker is accounted for

A walker keeps its number, and it is lost if and only if the API breaks down before it.
All other walkers leave an outcome under their number.  Once a test is over, everybody
who was started has ended, and the outcomes stand in the order of the numbers: so the
numbers that are missing are those of the lost walkers.
-/

namespace TransitLoad

open Activity

/-! ## Brittle steps -/

/-- A step that leaves a walker its number, and that ends in the fault of the API if that
breaks down in its course. -/
structure WalkStep.Brittle (step : WalkStep α) : Prop where
  id {walker after : Walker}
    (yields : Yields (walker.perform step) events (result, after)) :
    after.id = walker.id
  breaks {walker after : Walker}
    (yields : Yields (walker.perform step) events (result, after))
    (broken : .exchanged url ⟨elapsed, .broken text⟩ ∈ events) :
    result = .error (.fault (.brokenRequest text))

namespace WalkStep.Brittle

/-- A step that comes to its end at once is brittle if it leaves the walker its number. -/
theorem of_finish
    {step : WalkStep α}
    (instant : ∀ walker : Walker, ∃ result after,
      walker.perform step = .finish (result, after) ∧ after.id = walker.id) :
    Brittle step where
  id {events result walker after} yields := by
    obtain ⟨_, _, same, kept⟩ := instant walker
    rw [same, yields_finish] at yields
    cases yields.2
    exact kept
  breaks yields broken := by
    obtain ⟨_, _, same, _⟩ := instant _
    rw [same, yields_finish] at yields
    rw [yields.1] at broken
    cases broken

theorem pure (value : α) : Brittle (Pure.pure value : WalkStep α) :=
  .of_finish fun walker => ⟨_, walker, walker.perform_pure value, rfl⟩

theorem get : Brittle (MonadState.get : WalkStep Walker) :=
  .of_finish fun walker => ⟨_, walker, walker.perform_get, rfl⟩

theorem orFault (result : Except Fault α) : Brittle (WalkStep.orFault result) :=
  .of_finish fun walker => ⟨_, walker, walker.perform_orFault result, rfl⟩

theorem draw (choice : Draw α) : Brittle (WalkStep.draw choice) :=
  .of_finish fun walker => ⟨_, _, walker.perform_draw choice, rfl⟩

theorem throw (mishap : Mishap WalkError) :
    Brittle (MonadExcept.throw mishap : WalkStep α) :=
  .of_finish fun walker => ⟨_, walker, walker.perform_throw mishap, rfl⟩

theorem fail (error : WalkError) : Brittle (WalkStep.fail error : WalkStep α) :=
  .throw (.error error)

theorem remember (selection : Selection) : Brittle (WalkStep.remember selection) :=
  .of_finish fun walker => ⟨_, _, walker.perform_remember selection, rfl⟩

/-- A step that ends after one event is brittle if the event is no request. -/
theorem of_single
    {step : WalkStep Unit}
    (single : ∀ (walker : Walker) events ended, Yields (walker.perform step) events ended →
      exchanges events = [] ∧ ended.2 = walker) :
    Brittle step where
  id yields := congrArg Walker.id (single _ _ _ yields).2
  breaks yields broken := by
    have listed : _ ∈ exchanges _ := List.mem_filterMap.mpr ⟨_, broken, rfl⟩
    rw [(single _ _ _ yields).1] at listed
    cases listed

theorem tell (entry : WalkNote) : Brittle (WalkStep.tell entry) := by
  apply of_single
  intro walker events ended yields
  rw [Walker.perform_tell, yields_note] at yields
  obtain ⟨later, rfl, yields⟩ := yields
  obtain ⟨rfl, rfl⟩ := yields_finish.mp yields
  exact ⟨rfl, rfl⟩

theorem rest (length : Duration) : Brittle (WalkStep.act (.rest length)) := by
  apply of_single
  intro walker events ended yields
  rw [Walker.perform_act, Activity.rest, pause_bind, yields_pause] at yields
  obtain ⟨later, rfl, yields⟩ := yields
  obtain ⟨rfl, rfl⟩ := yields_finish.mp yields
  exact ⟨rfl, rfl⟩

theorem bind
    {step : WalkStep α}
    {next : α → WalkStep β}
    (first : Brittle step)
    (second : ∀ value, Brittle (next value)) :
    Brittle (step >>= next) where
  id yields := by
    rcases Walker.yields_perform_bind.mp yields with
      ⟨_, _, failed⟩ | ⟨_, _, value, _, rfl, succeeded, later⟩
    · exact first.id failed
    · exact ((second value).id later).trans (first.id succeeded)
  breaks yields broken := by
    rcases Walker.yields_perform_bind.mp yields with
      ⟨_, rfl, failed⟩ | ⟨_, _, value, _, rfl, succeeded, later⟩
    · exact congrArg Except.error (Except.error.inj (first.breaks failed broken))
    · rcases List.mem_append.mp broken with broken | broken
      · cases first.breaks succeeded broken
      · exact (second value).breaks later broken

theorem attempt
    {step : WalkStep α}
    (brittle : Brittle step) :
    Brittle step.attempt where
  id {events result walker after} yields := by
    rw [Walker.perform_attempt, yields_bind] at yields
    obtain ⟨before, later, ⟨(_ | _) | _, middle⟩, rfl, tried, ended⟩ := yields <;>
      obtain ⟨rfl, same⟩ := yields_finish.mp ended <;>
      cases same <;>
      exact brittle.id tried
  breaks yields broken := by
    rw [Walker.perform_attempt, yields_bind] at yields
    obtain ⟨before, later, ⟨(_ | fault) | _, middle⟩, rfl, tried, ended⟩ := yields <;>
      obtain ⟨rfl, same⟩ := yields_finish.mp ended <;>
      rw [List.append_nil] at broken <;>
      cases brittle.breaks tried broken
    cases same
    rfl

theorem resolve
    (itinerary : Itinerary)
    (kind : ResourceKind)
    (href : String) :
    Brittle (WalkStep.resolve itinerary kind href) := by
  unfold WalkStep.resolve
  split
  · exact .pure _
  · exact .fail _

/-- A request before which the API breaks down is a fault. -/
theorem fetched
    (kind : ResourceKind)
    (url : Url)
    (α : Type)
    [Document α] :
    Brittle (WalkStep.fetched kind url α) where
  id {events result walker after} yields := by
    rw [Walker.perform_fetched, yields_request] at yields
    obtain ⟨answer, later, rfl, yields⟩ := yields
    obtain ⟨_, ended⟩ := yields_finish.mp yields
    split at ended <;> cases ended <;> rfl
  breaks yields broken := by
    rw [Walker.perform_fetched, yields_request] at yields
    obtain ⟨answer, later, rfl, yields⟩ := yields
    obtain ⟨rfl, ended⟩ := yields_finish.mp yields
    cases List.mem_singleton.mp broken
    cases ended
    rfl

theorem document
    (kind : ResourceKind)
    (url : Url)
    (α : Type)
    [Document α] :
    Brittle (WalkStep.document kind url α) := by
  unfold WalkStep.document
  refine Brittle.bind .get fun walker => ?_
  refine Brittle.bind (.tell _) fun _ => ?_
  exact (Brittle.fetched kind url α).bind fun _ => .pure _

theorem choose
    (kind : ResourceKind)
    (resources : List α)
    (url : Url) :
    Brittle (WalkStep.choose kind resources url) := by
  unfold WalkStep.choose
  have chosen : Brittle (do
      let index ← WalkStep.draw (Draw.index resources.length)
      WalkStep.remember ⟨kind, index⟩
      WalkStep.orFault (Draw.element resources index)) := by
    refine Brittle.bind (.draw _) fun index => ?_
    exact Brittle.bind (.remember _) fun _ => .orFault _
  simp only
  split_ifs
  · exact Brittle.bind (.fail _) fun _ => chosen
  · exact chosen

theorem fromStart (itinerary : Itinerary) : Brittle (WalkStep.fromStart itinerary) := by
  unfold WalkStep.fromStart
  refine (Brittle.document ..).bind fun root => ?_
  refine (Brittle.resolve ..).bind fun systemsUrl => ?_
  refine (Brittle.document ..).bind fun systems => ?_
  refine (Brittle.choose ..).bind fun summary => ?_
  refine (Brittle.resolve ..).bind fun systemUrl => ?_
  exact (Brittle.document ..).bind fun system => .pure _

theorem fromSystem (itinerary : Itinerary) (system : System) :
    Brittle (WalkStep.fromSystem itinerary system) := by
  unfold WalkStep.fromSystem
  refine (Brittle.resolve ..).bind fun routesUrl => ?_
  refine (Brittle.document ..).bind fun routes => ?_
  refine (Brittle.choose ..).bind fun summary => ?_
  refine (Brittle.resolve ..).bind fun routeUrl => ?_
  exact (Brittle.document ..).bind fun route => .pure _

theorem fetchStop (itinerary : Itinerary) (href : String) :
    Brittle (WalkStep.fetchStop itinerary href) :=
  (Brittle.resolve ..).bind fun url => .fetched .stop url Stop

theorem fromRoute (itinerary : Itinerary) (route : Route) :
    Brittle (WalkStep.fromRoute itinerary route) := by
  unfold WalkStep.fromRoute
  refine (Brittle.draw _).bind fun map => ?_
  cases map with
  | none =>
      refine Brittle.bind .get fun walker => ?_
      exact Brittle.bind (.tell _) fun _ => .pure _
  | some map =>
      refine (Brittle.orFault _).bind fun serviceMap => ?_
      refine (Brittle.draw _).bind fun index => ?_
      refine (Brittle.remember _).bind fun _ => ?_
      refine (Brittle.orFault _).bind fun summary => ?_
      refine (Brittle.fetchStop itinerary summary.href).attempt.bind fun fetched => ?_
      cases fetched with
      | error error => exact Brittle.bind (.tell _) fun _ => .fail error
      | ok fetched => exact Brittle.bind (.tell _) fun _ => .pure _

theorem transition (itinerary : Itinerary) (state : WalkState) :
    Brittle (WalkStep.transition itinerary state) := by
  cases state with
  | start => exact .fromStart itinerary
  | system system => exact .fromSystem itinerary system
  | route route => exact .fromRoute itinerary route
  | stop stop => exact .pure _
  | atEnd => exact Brittle.bind .get fun walker => .throw _

theorem walkOn (itinerary : Itinerary) (steps : Nat) (state : WalkState) :
    Brittle (WalkStep.walkOn itinerary steps state) := by
  induction steps generalizing state with
  | zero => exact .pure _
  | succ steps hypothesis =>
      refine (Brittle.transition itinerary state).attempt.bind fun next => ?_
      cases next with
      | error error =>
          refine Brittle.bind .get fun walker => ?_
          exact Brittle.bind (.tell _) fun _ => .pure _
      | ok next =>
          refine Brittle.bind .get fun walker => ?_
          refine Brittle.bind (.tell _) fun _ => ?_
          split_ifs
          · exact .pure _
          · refine (Brittle.draw _).bind fun pause => ?_
            exact (Brittle.rest pause).bind fun _ => hypothesis next

end WalkStep.Brittle

/-! ## Walks -/

namespace Walker

/-- An outcome bears the number of its walker. -/
theorem walker_of_walk
    {itinerary : Itinerary}
    {walker : Walker}
    (yields : Yields (walker.walk itinerary) events (.ok outcome)) :
    outcome.walker = walker.id := by
  rw [walk_eq, yields_bind] at yields
  obtain ⟨before, later, ⟨ended, after⟩, rfl, walked, finished⟩ := yields
  have id := (WalkStep.Brittle.walkOn itinerary _ _).id walked
  have concluded := (yields_finish.mp finished).2
  rcases ended with (error | fault) | ending <;> cases concluded <;> exact id

/-- A walker before which the API breaks down is lost, in the fault of the API. -/
theorem result_of_broken
    {itinerary : Itinerary}
    {walker : Walker}
    (yields : Yields (walker.walk itinerary) events result)
    (broken : .exchanged url ⟨elapsed, .broken text⟩ ∈ events) :
    result = .error (.brokenRequest text) := by
  rw [walk_eq, yields_bind] at yields
  obtain ⟨before, later, ⟨ended, after⟩, rfl, walked, finished⟩ := yields
  obtain ⟨rfl, rfl⟩ := yields_finish.mp finished
  rw [List.append_nil] at broken
  cases (WalkStep.Brittle.walkOn itinerary _ _).breaks walked broken
  rfl

/-- A walker is lost only if the API breaks down before it. -/
theorem brokeDown_of_lost
    {itinerary : Itinerary}
    {walker : Walker}
    (representable : itinerary.pause.IsRepresentable)
    (yields : Yields (walker.walk itinerary) events (.error fault)) :
    BrokeDown events := by
  obtain ⟨ended, after, safe, concluded⟩ := exists_walkSafe representable yields
  rcases ended with (error | fault) | ending <;> cases concluded
  exact (safe.faultless fault rfl).brokeDown

/-- A walker is lost if and only if the API breaks down before it. -/
theorem lost_iff_brokeDown
    {itinerary : Itinerary}
    {walker : Walker}
    (representable : itinerary.pause.IsRepresentable)
    (yields : Yields (walker.walk itinerary) events result) :
    (∃ fault, result = .error fault) ↔ BrokeDown events := by
  constructor
  · rintro ⟨fault, rfl⟩
    exact brokeDown_of_lost representable yields
  · rintro ⟨_, _, text, broken⟩
    exact ⟨_, result_of_broken yields broken⟩

end Walker

/-! ## Walkers and their outcomes -/

/-- A summary accounts for every walker once: it has an outcome unless it was lost. -/
structure RunSummary.AccountsFor (summary : RunSummary) (lost : Nat → Prop) : Prop where
  spawned_eq : summary.spawned = summary.completed + summary.aborted + summary.panicked
  length_outcomes : summary.outcomes.length = summary.completed + summary.aborted
  completed_eq :
    (summary.outcomes.filter fun outcome => outcome.ending = .completed).length =
      summary.completed
  increasing : (summary.outcomes.map WalkOutcome.walker).Pairwise (· < ·)
  walker_lt : ∀ outcome ∈ summary.outcomes, outcome.walker < summary.spawned
  missing_iff : ∀ walker < summary.spawned,
    walker ∉ summary.outcomes.map WalkOutcome.walker ↔ lost walker

namespace RunState

/-- A walker ended in a fault. -/
def HasLost (state : RunState) (walker : Nat) : Prop :=
  ∃ fault, state.resultOf? walker = some (.error fault)

theorem endedInOrder_perm (state : RunState) : state.endedInOrder.Perm state.ended :=
  List.mergeSort_perm _ _

/-- Once a test is over, the walks in order are those of all walkers, one after another. -/
theorem InOrder.walkers_endedInOrder
    {state : RunState}
    (inOrder : InOrder plan state)
    (stopped : state.isOver = true) :
    state.endedInOrder.map EndedWalk.walker = List.range state.spawned := by
  have sorted : state.endedInOrder.Pairwise fun left right => left.walker ≤ right.walker := by
    refine (List.pairwise_mergeSort ?_ ?_ state.ended).imp of_decide_eq_true
    · intro first second third le le'
      exact decide_eq_true ((of_decide_eq_true le).trans (of_decide_eq_true le'))
    · intro left right
      simpa using Nat.le_total left.walker right.walker
  apply List.Perm.eq_of_pairwise (fun _ _ _ _ => Nat.le_antisymm)
  · exact List.pairwise_map.mpr sorted
  · exact List.pairwise_lt_range.imp Nat.le_of_lt
  · exact (state.endedInOrder_perm.map _).trans (inOrder.perm_ended stopped)

/-- An outcome stands under the number of its walker. -/
theorem Chronicle.walker_of_result
    {state : RunState}
    {walk : EndedWalk}
    (chronicle : Chronicle plan state journal)
    (present : walk ∈ state.ended)
    (resultEq : walk.result = .ok outcome) :
    outcome.walker = walk.walker := by
  have yields := (chronicle.ended walk present).yields
  rw [resultEq] at yields
  exact Walker.walker_of_walk yields

/-- The numbers in the outcomes are those of the walks that have one. -/
theorem Chronicle.walkers_outcomes
    {state : RunState}
    (chronicle : Chronicle plan state journal) :
    state.summary.outcomes.map WalkOutcome.walker =
      (state.endedInOrder.filter fun walk => walk.result.toOption.isSome).map
        EndedWalk.walker := by
  have own : ∀ walk ∈ state.endedInOrder, ∀ outcome, walk.result = .ok outcome →
      outcome.walker = walk.walker := fun walk present outcome =>
    chronicle.walker_of_result (state.endedInOrder_perm.mem_iff.mp present)
  change (state.endedInOrder.filterMap fun walk => walk.result.toOption).map _ = _
  generalize state.endedInOrder = walks at own
  induction walks with
  | nil => rfl
  | cons walk walks hypothesis =>
      have rest := hypothesis fun other present =>
        own other (List.mem_cons_of_mem _ present)
      cases resultEq : walk.result with
      | error fault => simpa [resultEq, Except.toOption] using rest
      | ok outcome =>
          have here := own walk (List.mem_cons_self ..) outcome resultEq
          simpa [resultEq, Except.toOption, here] using rest

/-- The walkers are those that have an outcome and those that are lost. -/
theorem InOrder.spawned_eq
    {state : RunState}
    (inOrder : InOrder plan state)
    (stopped : state.isOver = true) :
    state.spawned = state.summary.outcomes.length + state.summary.panicked := by
  have enrolled := inOrder.enrolled.count_eq
  rw [(inOrder.finished stopped).2, List.length_nil, Nat.zero_add] at enrolled
  have outcomes : state.summary.outcomes.length =
      state.ended.countP fun walk => walk.result.toOption.isSome := by
    rw [← List.countP_true, countP_outcomes]
    apply List.countP_congr
    intro walk _
    cases walk.result <;> rfl
  rw [outcomes, ← enrolled, List.length_eq_countP_add_countP fun walk =>
    walk.result.toOption.isSome]
  congr 1
  apply List.countP_congr
  intro walk _
  cases walk.result <;> simp [Except.toOption]

/-- The walkers in the outcomes are those that ended in one. -/
theorem WellKept.mem_outcomes_iff
    {state : RunState}
    (wellKept : WellKept plan state journal) :
    walker ∈ state.summary.outcomes.map WalkOutcome.walker ↔
      ∃ outcome, state.resultOf? walker = some (.ok outcome) := by
  rw [wellKept.chronicle.walkers_outcomes, List.mem_map]
  constructor
  · rintro ⟨walk, present, rfl⟩
    obtain ⟨present, isSome⟩ := List.mem_filter.mp present
    cases resultEq : walk.result with
    | error fault =>
        rw [resultEq] at isSome
        cases isSome
    | ok outcome =>
        have ended := state.endedInOrder_perm.mem_iff.mp present
        exact ⟨outcome, wellKept.enrolled.resultOf?_eq_some_iff.mpr
          ⟨walk, ended, rfl, resultEq⟩⟩
  · rintro ⟨outcome, result⟩
    obtain ⟨walk, present, rfl, resultEq⟩ := wellKept.enrolled.resultOf?_eq_some_iff.mp result
    refine ⟨walk, List.mem_filter.mpr ⟨state.endedInOrder_perm.mem_iff.mpr present, ?_⟩, rfl⟩
    rw [resultEq]
    rfl

/-- The outcomes are those of the walkers that are not lost, in the order of their
numbers. -/
theorem WellKept.accountsFor
    {state : RunState}
    (wellKept : WellKept plan state journal)
    (stopped : state.isOver = true) :
    state.summary.AccountsFor state.HasLost := by
  have completed : state.summary.completed ≤ state.summary.outcomes.length :=
    List.countP_le_length
  have aborted : state.summary.aborted =
      state.summary.outcomes.length - state.summary.completed := rfl
  have sublist : (state.summary.outcomes.map WalkOutcome.walker).Sublist
      (List.range state.spawned) := by
    rw [wellKept.chronicle.walkers_outcomes, ← wellKept.walkers_endedInOrder stopped]
    exact List.filter_sublist.map _
  refine ⟨?_, by omega, List.countP_eq_length_filter.symm,
    List.pairwise_lt_range.sublist sublist, ?_, ?_⟩
  · have spawned := wellKept.spawned_eq stopped
    change state.spawned = _
    omega
  · intro outcome present
    exact List.mem_range.mp (sublist.subset (List.mem_map_of_mem present))
  · intro walker started
    obtain ⟨walk, _, _, result⟩ := wellKept.exists_ended stopped started
    rw [wellKept.mem_outcomes_iff, HasLost, result]
    cases walk.result <;> simp

/-- The walkers that are lost are those before which the API breaks down. -/
theorem WellKept.hasLost_iff
    {state : RunState}
    (wellKept : WellKept plan state journal)
    (stopped : state.isOver = true)
    (started : walker < state.spawned) :
    state.HasLost walker ↔ BrokeDown ((timeline journal walker).map Deed.event) := by
  obtain ⟨walk, present, rfl, result⟩ := wellKept.exists_ended stopped started
  rw [← Walker.lost_iff_brokeDown plan.settings.actionPause_isRepresentable
    (wellKept.chronicle.ended walk present).yields, HasLost, result]
  simp only [Option.some.injEq]

end RunState

namespace RunPlan

open RunState

/-- The number of walkers started never falls. -/
theorem spawned_mono
    (plan : RunPlan)
    (le : earlier ≤ later) :
    (plan.after earlier).spawned ≤ (plan.after later).spawned := by
  apply onward_induction
    (motive := fun state => (plan.after earlier).spawned ≤ state.spawned)
    _ _ le (Nat.le_refl _)
  · intro state deeds state' holds action
    cases action with
    | start => exact Nat.le_succ_of_le holds
    | tick | take | queue | collect | refuse | withdraw | giveUp | carry | retire =>
        exact holds
  · intro state holds _ _
    rw [advance_eq]
    exact holds

/-- Every walker is accounted for once.  When a test is over, the walkers that were
started are those that completed, those that were aborted, and those that were lost.
The outcomes are those of the completed and of the aborted walkers; their numbers
increase strictly, and the numbers that are missing are those of the lost walkers.  A
walker is lost if and only if the API breaks down before it.  All walkers that were ever
under way are included, also those at the deadline. -/
theorem walkers_accounted
    {plan : RunPlan}
    (stopped : (plan.after steps).isOver = true) :
    (plan.after steps).summary.AccountsFor (plan.after steps).HasLost ∧
      (∀ walker < (plan.after steps).summary.spawned,
        (plan.after steps).HasLost walker ↔
          BrokeDown ((timeline (plan.journal steps) walker).map Deed.event)) ∧
      ∀ earlier ≤ steps, ∀ walk ∈ (plan.after earlier).active,
        walk.walker < (plan.after steps).summary.spawned := by
  have wellKept := plan.wellKept_after steps
  refine ⟨wellKept.accountsFor stopped, fun _ => wellKept.hasLost_iff stopped, ?_⟩
  intro earlier le walk present
  exact ((plan.inOrder_after earlier).enrolled.walker_lt present).trans_le
    (plan.spawned_mono le)

/-- A test before an API that breaks down at its first request, and that finds nothing
from then on. -/
def brokenStart : RunPlan where
  settings := { Settings.defaults with
    durationSeconds := 1
    maxConcurrency := 2
    minSpawnDelay := 330
    maxSpawnDelay := 330 }
  api := fun place _ =>
    if place = 0 then ⟨.zero, .broken "connection reset"⟩
    else ⟨.ofMilliseconds 100, .status 404⟩
  order := id

/-- Of the three walkers of `brokenStart` the first is lost, and the last, which is under
way at the deadline, is aborted as the second is. -/
theorem walkers_accounted_brokenStart :
    brokenStart.deadline < (brokenStart.after 17).now ∧
      (brokenStart.after 17).active.map ActiveWalk.walker = [2] ∧
      (brokenStart.after 20).isOver = true ∧
      (brokenStart.after 20).summary.spawned = 3 ∧
      (brokenStart.after 20).summary.panicked = 1 ∧
      (brokenStart.after 20).summary.aborted = 2 ∧
      0 ∉ (brokenStart.after 20).summary.outcomes.map WalkOutcome.walker ∧
      (brokenStart.after 20).summary.AccountsFor (brokenStart.after 20).HasLost := by
  have underWay : brokenStart.deadline < (brokenStart.after 17).now ∧
      (brokenStart.after 17).active.map ActiveWalk.walker = [2] := by decide +kernel
  have ended : (brokenStart.after 20).isOver = true ∧
      (brokenStart.after 20).summary.spawned = 3 ∧
      (brokenStart.after 20).summary.panicked = 1 ∧
      ((brokenStart.after 20).ended.countP fun walk =>
        walk.result.toOption.any fun outcome => outcome.ending = .completed) = 0 ∧
      (brokenStart.after 20).resultOf? 0 = some (.error (.brokenRequest "connection reset")) := by
    decide +kernel
  obtain ⟨stopped, spawned, panicked, none, lost⟩ := ended
  have accounts := (walkers_accounted stopped).1
  have total := accounts.spawned_eq
  have completed : (brokenStart.after 20).summary.completed = 0 :=
    (countP_outcomes _ _).trans none
  have missing := (accounts.missing_iff 0 (by rw [spawned]; decide)).mpr ⟨_, lost⟩
  exact ⟨underWay.1, underWay.2, stopped, spawned, panicked, by omega, missing, accounts⟩

end RunPlan
end TransitLoad
