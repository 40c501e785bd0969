import TransitLoad.Proofs.StopAccounts

/-!
# Safety of walks

However an API answers, as long as it does not break down, a walk ends in an outcome.  It
takes four steps at most, for every step leads to a state with fewer steps before it, and
in every state a fixed number of requests has been answered.  Every choice that it made is
within the list that one of these answers brought.
-/

namespace TransitLoad

open Activity

/-! ## What happened -/

/-- The length of a pause, if that is what happened. -/
def Activity.Event.rest? : Event Note → Option Duration
  | .rested length => some length
  | _ => none

/-- The lengths of the pauses among some events. -/
def Activity.rests (events : List (Event Note)) : List Duration := events.filterMap Event.rest?

@[simp] theorem Activity.rests_append (before after : List (Event Note)) :
    rests (before ++ after) = rests before ++ rests after :=
  List.filterMap_append

/-- Whether a note tells how a step of a walk ended. -/
def WalkNote.endsStep : WalkNote → Bool
  | .moved _ _ _ => true
  | .stopped _ _ _ => true
  | _ => false

/-- How many steps of a walk ended in the course of some events. -/
def transitions (events : List (Event WalkNote)) : Nat :=
  (entries events).countP WalkNote.endsStep

@[simp] theorem transitions_append (before after : List (Event WalkNote)) :
    transitions (before ++ after) = transitions before + transitions after := by
  rw [transitions, entries_append, List.countP_append]
  rfl

/-- The API broke down while it served one of some requests. -/
def BrokeDown (events : List (Event WalkNote)) : Prop :=
  ∃ url elapsed text, .exchanged url ⟨elapsed, .broken text⟩ ∈ events

/-- The API broke down while it served the last of some requests. -/
def BrokeOff (events : List (Event WalkNote)) : Prop :=
  ∃ earlier url elapsed text,
    exchanges events = earlier ++ [(url, (⟨elapsed, .broken text⟩ : Answer))]

theorem BrokeOff.brokeDown
    {events : List (Event WalkNote)}
    (brokeOff : BrokeOff events) :
    BrokeDown events := by
  obtain ⟨earlier, url, elapsed, text, same⟩ := brokeOff
  have listed : (url, (⟨elapsed, .broken text⟩ : Answer)) ∈ exchanges events := by
    rw [same]
    exact List.mem_append_right _ (List.mem_singleton_self _)
  obtain ⟨event, present, exchanged⟩ := List.mem_filterMap.mp listed
  cases event with
  | exchanged =>
      cases exchanged
      exact ⟨url, elapsed, text, present⟩
  | rested | noted => cases exchanged

theorem BrokeOff.append_left
    {events : List (Event WalkNote)}
    (brokeOff : BrokeOff events)
    (unasked : exchanges later = []) :
    BrokeOff (events ++ later) := by
  obtain ⟨earlier, url, elapsed, text, same⟩ := brokeOff
  refine ⟨earlier, url, elapsed, text, ?_⟩
  rw [exchanges_append, unasked, List.append_nil, same]

theorem BrokeOff.append_right
    {events : List (Event WalkNote)}
    (brokeOff : BrokeOff events)
    (before : List (Event WalkNote)) :
    BrokeOff (before ++ events) := by
  obtain ⟨earlier, url, elapsed, text, same⟩ := brokeOff
  refine ⟨exchanges before ++ earlier, url, elapsed, text, ?_⟩
  rw [exchanges_append, same, List.append_assoc]

/-! ## Documents among answers -/

/-- The document that an answer brings, if it brings one. -/
def Answer.document? (α : Type) [Document α] (answer : Answer) : Option α :=
  match answer.reply with
  | .body bytes => (Document.decode α bytes).toOption
  | _ => none

theorem Answer.document?_of_decoded
    [Document α]
    {answer : Answer}
    {fetched : Fetched α}
    (decoded : answer.decoded (Document.decode α) url = .ok fetched) :
    answer.document? α = some fetched.value := by
  obtain ⟨elapsed, reply⟩ := answer
  cases reply with
  | body bytes =>
      cases decodes : Document.decode α bytes with
      | ok value =>
          simp only [Answer.decoded, decodes] at decoded
          cases decoded
          simp [document?, decodes, Except.toOption]
      | error error =>
          simp only [Answer.decoded, decodes] at decoded
          cases decoded
  | status | unreachable | broken => cases decoded

/-- Only a broken reply is a fault. -/
theorem Answer.reply_of_decoded_fault
    {decode : List UInt8 → Except DecodeError α}
    {answer : Answer}
    (decoded : answer.decoded decode url = .error (.fault fault)) :
    ∃ text, answer.reply = .broken text := by
  obtain ⟨elapsed, reply⟩ := answer
  cases reply with
  | body bytes =>
      simp only [Answer.decoded] at decoded
      split at decoded <;> cases decoded
  | broken text => exact ⟨text, rfl⟩
  | status | unreachable => cases decoded

theorem Answer.document?_of_document
    [Document α]
    {answer : Answer}
    (arrived : answer.document kind url α = .ok value) :
    answer.document? α = some value := by
  unfold document at arrived
  split at arrived
  · rename_i decoded
    cases arrived
    exact document?_of_decoded decoded
  · cases arrived
  · cases arrived

theorem Answer.reply_of_document_fault
    [Document α]
    {answer : Answer}
    (lost : answer.document kind url α = .error (.fault fault)) :
    ∃ text, answer.reply = .broken text := by
  unfold document at lost
  split at lost
  · cases lost
  · cases lost
  · rename_i decoded
    exact reply_of_decoded_fault decoded

/-- The document that the answer at some place brings. -/
def documentAt?
    (α : Type)
    [Document α]
    (answered : List (Url × Answer))
    (place : Nat) : Option α :=
  answered[place]?.bind fun exchange => exchange.2.document? α

theorem documentAt?_append
    [Document α]
    (found : documentAt? α answered place = some value)
    (later : List (Url × Answer)) :
    documentAt? α (answered ++ later) place = some value := by
  obtain ⟨exchange, present, same⟩ := Option.bind_eq_some_iff.mp found
  have inside := (List.getElem?_eq_some_iff.mp present).1
  rw [documentAt?, List.getElem?_append_left inside, present]
  exact same

/-- A choice is within the list that it was made from: the list of systems in the second
answer, the list of routes in the fourth, and the stops of the service map that is
selected from the route in the fifth. -/
def Selection.IsWithin (answered : List (Url × Answer)) (selection : Selection) : Prop :=
  match selection.kind with
  | .system => ∃ systems, documentAt? (List SystemSummary) answered 1 = some systems ∧
      selection.index < systems.length
  | .route => ∃ routes, documentAt? (List RouteSummary) answered 3 = some routes ∧
      selection.index < routes.length
  | .stop => ∃ route generator map after serviceMap,
      documentAt? Route answered 4 = some route ∧
        route.selectServiceMap.from? generator = (.ok (some map), after) ∧
        route.serviceMaps[map]? = some serviceMap ∧
        selection.index < serviceMap.stops.length
  | .root | .trip => False

theorem Selection.IsWithin.append
    {selection : Selection}
    {answered : List (Url × Answer)}
    (within : selection.IsWithin answered)
    (later : List (Url × Answer)) :
    selection.IsWithin (answered ++ later) := by
  obtain ⟨kind, index⟩ := selection
  cases kind with
  | system =>
      obtain ⟨systems, found, below⟩ := within
      exact ⟨systems, documentAt?_append found later, below⟩
  | route =>
      obtain ⟨routes, found, below⟩ := within
      exact ⟨routes, documentAt?_append found later, below⟩
  | stop =>
      obtain ⟨route, generator, map, after, serviceMap, found, rest⟩ := within
      exact ⟨route, generator, map, after, serviceMap, documentAt?_append found later, rest⟩
  | root | trip => exact within.elim

/-! ## Steps -/

namespace WalkState

/-- How many steps a walk takes from a state at most. -/
def stepsLeft : WalkState → Nat
  | .start => 4
  | .system _ => 3
  | .route _ => 2
  | .stop _ => 1
  | .atEnd => 0

/-- A walk is in a state after these requests were answered. -/
def Reached (answered : List (Url × Answer)) : WalkState → Prop
  | .start => answered = []
  | .system _ => answered.length = 3
  | .route current => answered.length = 5 ∧ documentAt? Route answered 4 = some current
  | .stop _ => answered.length = 6
  | .atEnd => answered.length ≤ 6

theorem Reached.length_le
    {state : WalkState}
    {answered : List (Url × Answer)}
    (reached : state.Reached answered) :
    answered.length ≤ 6 := by
  cases state with
  | start =>
      obtain rfl : answered = [] := reached
      exact Nat.zero_le _
  | system => exact (Nat.le_of_eq reached).trans (by decide)
  | route => exact (Nat.le_of_eq reached.1).trans (by decide)
  | stop => exact Nat.le_of_eq reached
  | atEnd => exact reached

theorem stepsLeft_pos
    {state : WalkState}
    (onward : state.isEnd = false) :
    0 < state.stepsLeft := by
  cases state with
  | atEnd => cases onward
  | start | system | route | stop => exact Nat.succ_pos _

end WalkState

namespace WalkStep

/-- What a leg keeps to: it does not pause and has at most two requests answered, its
choice is within the list that the first of them brought, and the document that it ends in
was brought by the second. -/
structure LegSafe
    (answered : List (Url × Answer))
    (kind : ResourceKind)
    (Summary Target : Type)
    [Document Summary]
    [Document Target]
    (walker : Walker)
    (events : List (Event WalkNote))
    (result : Except (Mishap WalkError) Target)
    (after : Walker) : Prop where
  idle : rests events = []
  silent : transitions events = 0
  unfailing : failures events = 0
  few : (exchanges events).length ≤ 2
  selections : ∃ later, after.selections = walker.selections ++ later ∧
    ∀ selection ∈ later, selection.kind = kind ∧ ∃ summaries,
      documentAt? (List Summary) (answered ++ exchanges events) answered.length =
          some summaries ∧
        selection.index < summaries.length
  faultless : ∀ fault, result = .error (.fault fault) → BrokeOff events
  arrived : ∀ value, result = .ok value → (exchanges events).length = 2 ∧
    documentAt? Target (answered ++ exchanges events) (answered.length + 1) = some value

theorem exchanges_visit
    (walker : Walker)
    (kind : ResourceKind)
    (url : Url)
    (answer : Answer) :
    exchanges (walker.visit kind url answer) = [(url, answer)] := rfl

theorem brokeOff_of_exchanges
    {events : List (Event WalkNote)}
    (asked : exchanges events = [(url, answer)])
    (broken : ∃ text, answer.reply = .broken text) :
    BrokeOff events := by
  obtain ⟨elapsed, reply⟩ := answer
  obtain ⟨text, rfl⟩ := broken
  exact ⟨[], url, elapsed, text, asked⟩

/-- What a request brings is at its place among the answers. -/
theorem documentAt?_exchanges
    [Document α]
    {answer : Answer}
    (found : answer.document? α = some value)
    (answered : List (Url × Answer))
    (url : Url)
    (later : List (Url × Answer)) :
    documentAt? α (answered ++ (url, answer) :: later) answered.length = some value := by
  rw [documentAt?, List.getElem?_append_right (Nat.le_refl _), Nat.sub_self]
  exact found

theorem LegEnds.safe
    {walker after : Walker}
    {link : Summary → String}
    [Document Summary]
    [Document Target]
    (ends : LegEnds itinerary kind href Summary link Target walker events result after)
    (answered : List (Url × Answer)) :
    LegSafe answered kind Summary Target walker events result after := by
  cases ends with
  | unresolved =>
      exact ⟨rfl, rfl, rfl, Nat.zero_le _, ⟨[], (List.append_nil _).symm, nofun⟩, nofun, nofun⟩
  | unlisted _ unlisted =>
      refine ⟨rfl, rfl, rfl, Nat.le_succ 1, ⟨[], (List.append_nil _).symm, nofun⟩, ?_, nofun⟩
      rintro fault ⟨⟩
      exact brokeOff_of_exchanges rfl (Answer.reply_of_document_fault unlisted)
  | empty =>
      exact ⟨rfl, rfl, rfl, Nat.le_succ 1, ⟨[], (List.append_nil _).symm, nofun⟩, nofun, nofun⟩
  | astray _ listed element =>
      refine ⟨rfl, rfl, rfl, Nat.le_succ 1, ⟨[_], rfl, ?_⟩, nofun, nofun⟩
      intro selection present
      rw [List.mem_singleton.mp present]
      exact ⟨rfl, _, documentAt?_exchanges (Answer.document?_of_document listed) _ _ _,
        (List.getElem?_eq_some_iff.mp element).1⟩
  | @answered url url' answer _ _ _ _ listed element =>
      refine ⟨rfl, rfl, rfl, Nat.le_refl 2, ⟨[_], rfl, ?_⟩, ?_, ?_⟩
      · intro selection present
        rw [List.mem_singleton.mp present]
        exact ⟨rfl, _,
          documentAt?_exchanges (Answer.document?_of_document listed) _ _ _,
          (List.getElem?_eq_some_iff.mp element).1⟩
      · intro fault lost
        exact (brokeOff_of_exchanges rfl (Answer.reply_of_document_fault lost)).append_right _
      · intro value arrived
        refine ⟨rfl, ?_⟩
        have place := documentAt?_exchanges (Answer.document?_of_document arrived)
          (answered ++ [(url, answer)]) url' []
        rw [List.length_append, List.append_assoc] at place
        exact place

/-- What a step of a walk keeps to, after some requests were answered. -/
structure StepSafe
    (answered : List (Url × Answer))
    (state : WalkState)
    (walker : Walker)
    (events : List (Event WalkNote))
    (result : Except (Mishap WalkError) WalkState)
    (after : Walker) : Prop where
  idle : rests events = []
  silent : transitions events = 0
  few : (answered ++ exchanges events).length ≤ 6
  selections : ∃ later, after.selections = walker.selections ++ later ∧
    ∀ selection ∈ later, selection.IsWithin (answered ++ exchanges events)
  faultless : ∀ fault, result = .error (.fault fault) → BrokeOff events
  onward : ∀ next, result = .ok next →
    next.Reached (answered ++ exchanges events) ∧ failures events = 0
  missed : ∀ kind error, result = .error (.error (.fetch kind error)) →
    (failures events = 1 ↔ (answered ++ exchanges events).length = 6)

/-- A leg to the next state, as a step. -/
theorem LegSafe.step
    {walker after : Walker}
    [Document Summary]
    [Document Target]
    {result : Except (Mishap WalkError) Target}
    (safe : LegSafe answered kind Summary Target walker events result after)
    (few : answered.length + 2 < 6)
    (within : ∀ index, (∃ summaries,
      documentAt? (List Summary) (answered ++ exchanges events) answered.length =
          some summaries ∧
        index < summaries.length) →
      Selection.IsWithin (answered ++ exchanges events) ⟨kind, index⟩)
    (reached : ∀ value, (answered ++ exchanges events).length = answered.length + 2 →
      documentAt? Target (answered ++ exchanges events) (answered.length + 1) = some value →
      (next value).Reached (answered ++ exchanges events)) :
    StepSafe answered state walker events (result.map next) after := by
  obtain ⟨later, selectionsEq, chosen⟩ := safe.selections
  have fewer := safe.few
  refine ⟨safe.idle, safe.silent, ?_, ⟨later, selectionsEq, ?_⟩, ?_, ?_, ?_⟩
  · rw [List.length_append]
    omega
  · intro selection present
    obtain ⟨rfl, listed⟩ := chosen selection present
    exact within selection.index listed
  · intro fault lost
    cases result with
    | error mishap =>
        cases lost
        exact safe.faultless fault rfl
    | ok value => cases lost
  · intro state' moved
    cases result with
    | error mishap => cases moved
    | ok value =>
        cases moved
        obtain ⟨both, found⟩ := safe.arrived value rfl
        exact ⟨reached value (by rw [List.length_append, both]) found, safe.unfailing⟩
  · intro other error _
    rw [safe.unfailing, List.length_append]
    omega

/-- A request that comes before a step is part of what was answered. -/
theorem StepSafe.visited
    {walker after : Walker}
    (safe : StepSafe (answered ++ [(url, answer)]) state walker events result after)
    (kind : ResourceKind) :
    StepSafe answered state walker (walker.visit kind url answer ++ events) result after := by
  have same : answered ++ exchanges (walker.visit kind url answer ++ events) =
      answered ++ [(url, answer)] ++ exchanges events := by
    rw [exchanges_append, exchanges_visit, List.append_assoc]
  have failuresEq : failures (walker.visit kind url answer ++ events) = failures events := by
    rw [failures_append]
    exact Nat.zero_add _
  refine ⟨?_, ?_, ?_, ?_, ?_, ?_, ?_⟩
  · rw [rests_append, safe.idle]
    rfl
  · rw [transitions_append, safe.silent]
    rfl
  · rw [same]
    exact safe.few
  · rw [same]
    exact safe.selections
  · intro fault lost
    exact (safe.faultless fault lost).append_right _
  · rw [same, failuresEq]
    exact safe.onward
  · rw [same, failuresEq]
    exact safe.missed

theorem stepSafe_fromSystem
    {walker after : Walker}
    (reached : answered.length = 3)
    (yields : Yields (walker.perform (fromSystem itinerary system)) events (result, after)) :
    StepSafe answered (.system system) walker events result after := by
  obtain ⟨ended, leg, rfl⟩ := systemEnds yields
  apply (leg.safe answered).step (by omega)
  · intro index listed
    rwa [reached] at listed
  · intro route both found
    rw [reached] at both found
    exact ⟨both, found⟩

theorem stepSafe_fromStart
    {walker after : Walker}
    (yields : Yields (walker.perform (fromStart itinerary)) events (result, after)) :
    StepSafe [] .start walker events result after := by
  obtain ⟨ended, ends, rfl⟩ := startEnds yields
  cases ends with
  | rootless lost =>
      refine ⟨rfl, rfl, Nat.le_add_left 1 5, ⟨[], (List.append_nil _).symm, nofun⟩, ?_, nofun, ?_⟩
      · rintro fault ⟨⟩
        exact brokeOff_of_exchanges rfl (Answer.reply_of_document_fault lost)
      · intro kind error _
        exact iff_of_false Nat.zero_ne_one (by simp [exchanges_visit])
  | rooted _ leg =>
      apply StepSafe.visited
      apply (leg.safe _).step (by simp)
      · intro index listed
        exact listed
      · intro system three _
        exact three

theorem stepSafe_fromRoute
    {walker after : Walker}
    (reached : WalkState.Reached answered (.route route))
    (yields : Yields (walker.perform (fromRoute itinerary route)) events (result, after)) :
    StepSafe answered (.route route) walker events result after := by
  obtain ⟨five, found⟩ := reached
  have within {index : Nat} {summary : StopSummary}
      (offered : route.Offers walker.generator index summary)
      (later : List (Url × Answer)) :
      ∀ selection ∈ [(⟨.stop, index⟩ : Selection)], selection.IsWithin (answered ++ later) := by
    intro selection present
    rw [List.mem_singleton.mp present]
    obtain ⟨map, after, serviceMap, _, selected, listed, element, _⟩ := offered
    exact ⟨route, walker.generator, map, after, serviceMap, documentAt?_append found _,
      selected, listed, (List.getElem?_eq_some_iff.mp element).1⟩
  have six (exchange : Url × Answer) : (answered ++ [exchange]).length = 6 := by
    rw [List.length_append, five]
    rfl
  have unasked (entry : WalkNote) : (answered ++ exchanges [.noted entry]).length ≤ 6 := by
    rw [exchanges_noted, List.append_nil, five]
    exact Nat.le_succ 5
  cases stopLegEnds yields with
  | noStops =>
      refine ⟨rfl, rfl, unasked _, ⟨[], (List.append_nil _).symm, nofun⟩, nofun, ?_, ?_⟩
      · rintro next ⟨⟩
        exact ⟨unasked _, rfl⟩
      · rintro kind error ⟨⟩
  | astray offered =>
      refine ⟨rfl, rfl, unasked _, ⟨_, rfl, within offered _⟩, nofun, nofun, ?_⟩
      rintro kind error ⟨⟩
  | failed offered =>
      refine ⟨rfl, rfl, (six _).le, ⟨_, rfl, within offered _⟩, nofun, nofun, ?_⟩
      intro kind error _
      exact iff_of_true rfl (six _)
  | lost offered _ lost =>
      refine ⟨rfl, rfl, (six _).le, ⟨_, rfl, within offered _⟩, ?_, nofun, ?_⟩
      · rintro fault ⟨⟩
        exact brokeOff_of_exchanges rfl (Answer.reply_of_decoded_fault lost)
      · rintro kind error ⟨⟩
  | reached offered =>
      refine ⟨rfl, rfl, (six _).le, ⟨_, rfl, within offered _⟩, nofun, ?_, ?_⟩
      · rintro next ⟨⟩
        exact ⟨six _, rfl⟩
      · rintro kind error ⟨⟩

/-- Every step from a state in which the walk has not come to its end. -/
theorem stepSafe
    {walker after : Walker}
    (reached : state.Reached answered)
    (onward : 0 < state.stepsLeft)
    (yields : Yields (walker.perform (transition itinerary state)) events (result, after)) :
    StepSafe answered state walker events result after := by
  cases state with
  | start =>
      obtain rfl : answered = [] := reached
      exact stepSafe_fromStart yields
  | system system => exact stepSafe_fromSystem reached yields
  | route route => exact stepSafe_fromRoute reached yields
  | stop stop =>
      obtain ⟨rfl, ended⟩ := yields_finish.mp yields
      cases ended
      have six : (answered ++ exchanges ([] : List (Event WalkNote))).length = 6 :=
        (congrArg List.length (List.append_nil answered)).trans reached
      refine ⟨rfl, rfl, six.le, ⟨[], (List.append_nil _).symm, nofun⟩, nofun, ?_, ?_⟩
      · rintro next ⟨⟩
        exact ⟨six.le, rfl⟩
      · rintro kind error ⟨⟩
  | atEnd => exact absurd onward (Nat.lt_irrefl 0)

/-- Every step leads to a state with fewer steps before it. -/
theorem stepsLeft_lt
    {walker after : Walker}
    (onward : 0 < state.stepsLeft)
    (yields : Yields (walker.perform (transition itinerary state)) events (.ok next, after)) :
    next.stepsLeft < state.stepsLeft := by
  cases state with
  | start =>
      obtain ⟨system, rfl⟩ := (gives_fromStart itinerary).holds yields
      exact Nat.lt_succ_self 3
  | system system =>
      obtain ⟨route, rfl⟩ := (gives_fromSystem itinerary system).holds yields
      exact Nat.lt_succ_self 2
  | route route =>
      cases stopLegEnds yields with
      | noStops => exact Nat.succ_pos 1
      | reached => exact Nat.lt_succ_self 1
  | stop stop =>
      obtain ⟨_, ended⟩ := yields_finish.mp yields
      cases ended
      exact Nat.succ_pos 0
  | atEnd => exact absurd onward (Nat.lt_irrefl 0)

/-! ## Walks -/

/-- What the rest of a walk keeps to that has so many steps left at most and comes after
some requests were answered. -/
structure WalkSafe
    (pause : DelayRange)
    (answered : List (Url × Answer))
    (left : Nat)
    (walker : Walker)
    (events : List (Event WalkNote))
    (result : Except (Mishap WalkError) Ending)
    (after : Walker) : Prop where
  few : (answered ++ exchanges events).length ≤ 6
  pauses : (rests events).length < left
  lengths : ∀ length ∈ rests events,
    pause.lower.nanoseconds ≤ length.nanoseconds ∧
      length.nanoseconds ≤ max pause.lower.nanoseconds pause.upper.nanoseconds
  steps : transitions events ≤ left
  selections : ∃ later, after.selections = walker.selections ++ later ∧
    ∀ selection ∈ later, selection.IsWithin (answered ++ exchanges events)
  settled : ∀ error, result ≠ .error (.error error)
  faultless : ∀ fault, result = .error (.fault fault) → BrokeOff events
  missed : ∀ kind error, result = .ok (.aborted (.fetch kind error)) →
    (failures events = 1 ↔ (answered ++ exchanges events).length = 6)

/-- A step that ends the walk, and the note that it leaves. -/
theorem StepSafe.last
    {walker after : Walker}
    {ending : Except (Mishap WalkError) Ending}
    (safe : StepSafe answered state walker events result after)
    (onward : 0 < state.stepsLeft)
    (tail : List (Event WalkNote))
    (idle : rests tail = [])
    (single : transitions tail ≤ 1)
    (unasked : exchanges tail = [])
    (unfailing : failures tail = 0)
    (settled : ∀ error, ending ≠ .error (.error error))
    (faultless : ∀ fault, ending = .error (.fault fault) → result = .error (.fault fault))
    (missed : ∀ kind error, ending = .ok (.aborted (.fetch kind error)) →
      result = .error (.error (.fetch kind error)))
    (pause : DelayRange) :
    WalkSafe pause answered state.stepsLeft walker (events ++ tail) ending after := by
  have same : exchanges (events ++ tail) = exchanges events := by
    rw [exchanges_append, unasked, List.append_nil]
  have restless : rests (events ++ tail) = [] := by
    rw [rests_append, safe.idle, idle]
    rfl
  refine ⟨?_, ?_, ?_, ?_, ?_, settled, ?_, ?_⟩
  · rw [same]
    exact safe.few
  · rw [restless]
    exact onward
  · rw [restless]
    intro length impossible
    cases impossible
  · rw [transitions_append, safe.silent, Nat.zero_add]
    exact single.trans onward
  · rw [same]
    exact safe.selections
  · intro fault lost
    exact (safe.faultless fault (faultless fault lost)).append_left unasked
  · intro kind error aborted
    rw [failures_append, unfailing, Nat.add_zero, same]
    exact safe.missed kind error (missed kind error aborted)

/-- A step that does not end the walk, the pause after it, and the rest of the walk. -/
theorem WalkSafe.prepend
    {walker middle after : Walker}
    {range : DelayRange}
    (rest : WalkSafe range (answered ++ exchanges events) next.stepsLeft
      { middle with generator } later result after)
    (safe : StepSafe answered state walker events (.ok next) middle)
    (fewer : next.stepsLeft < state.stepsLeft)
    (within : range.lower.nanoseconds ≤ length.nanoseconds ∧
      length.nanoseconds ≤ max range.lower.nanoseconds range.upper.nanoseconds)
    (ended : entry.endsStep = true)
    (uncounted : entry.counts = false) :
    WalkSafe range answered state.stepsLeft walker
      (events ++ .noted entry :: .rested length :: later) result after := by
  have unfailing := (safe.onward next rfl).2
  have asked : exchanges (events ++ .noted entry :: .rested length :: later) =
      exchanges events ++ exchanges later := exchanges_append _ _
  have rested : rests (events ++ .noted entry :: .rested length :: later) =
      length :: rests later := by
    rw [rests_append, safe.idle]
    rfl
  have stepped : transitions (events ++ .noted entry :: .rested length :: later) =
      1 + transitions later := by
    rw [transitions_append, safe.silent, Nat.zero_add, Nat.add_comm]
    exact List.countP_cons_of_pos ended
  have failed : failures (events ++ .noted entry :: .rested length :: later) =
      failures later := by
    have other : entry ≠ .failure := by
      rintro rfl
      cases uncounted
    rw [failures_append, unfailing, Nat.zero_add]
    exact List.count_cons_of_ne other
  obtain ⟨early, earlyEq, earlyWithin⟩ := safe.selections
  obtain ⟨late, lateEq, lateWithin⟩ := rest.selections
  refine ⟨?_, ?_, ?_, ?_, ⟨early ++ late, ?_, ?_⟩, rest.settled, ?_, ?_⟩
  · rw [asked, ← List.append_assoc]
    exact rest.few
  · rw [rested, List.length_cons]
    exact (Nat.succ_le_of_lt rest.pauses).trans_lt fewer
  · rw [rested]
    intro other present
    rcases List.mem_cons.mp present with rfl | present
    · exact within
    · exact rest.lengths other present
  · rw [stepped]
    have := rest.steps
    omega
  · rw [lateEq, earlyEq, List.append_assoc]
  · rw [asked, ← List.append_assoc]
    intro selection present
    rcases List.mem_append.mp present with present | present
    · exact (earlyWithin selection present).append _
    · exact lateWithin selection present
  · intro fault lost
    exact ((rest.faultless fault lost).append_right [.noted entry, .rested length]).append_right
      events
  · rw [failed, asked, ← List.append_assoc]
    exact rest.missed

theorem walkSafe
    {itinerary : Itinerary}
    {walker after : Walker}
    (representable : itinerary.pause.IsRepresentable)
    (reached : state.Reached answered)
    (onward : 0 < state.stepsLeft)
    (yields : Yields (walker.perform (walkOn itinerary steps state)) events (result, after)) :
    WalkSafe itinerary.pause answered state.stepsLeft walker events result after := by
  induction steps generalizing state walker answered events result after with
  | zero =>
      obtain ⟨rfl, ended⟩ := yields_finish.mp yields
      cases ended
      have none : answered ++ exchanges ([] : List (Event WalkNote)) = answered :=
        List.append_nil answered
      refine ⟨?_, onward, ?_, Nat.zero_le _, ⟨[], (List.append_nil _).symm, ?_⟩, ?_, ?_, ?_⟩
      · rw [none]
        exact reached.length_le
      · intro length impossible
        cases impossible
      · intro selection impossible
        cases impossible
      · rintro error ⟨⟩
      · rintro fault ⟨⟩
      · rintro kind error ⟨⟩
  | succ steps hypothesis =>
      cases walkedOn representable yields with
      | @lost _ fault _ step =>
          rw [← List.append_nil events]
          refine (stepSafe reached onward step).last onward [] rfl (Nat.zero_le 1) rfl rfl
            ?_ ?_ ?_ _
          · rintro error ⟨⟩
          · rintro other ⟨⟩
            rfl
          · rintro kind error ⟨⟩
      | aborted step =>
          refine (stepSafe reached onward step).last onward [.noted (.stopped _ _ _)] rfl
            (Nat.le_refl 1) rfl rfl ?_ ?_ ?_ _
          · rintro error ⟨⟩
          · rintro other ⟨⟩
          · rintro kind error ⟨⟩
            rfl
      | arrived step =>
          refine (stepSafe reached onward step).last onward [.noted (.moved _ _ _)] rfl
            (Nat.le_refl 1) rfl rfl ?_ ?_ ?_ _
          · rintro error ⟨⟩
          · rintro other ⟨⟩
          · rintro kind error ⟨⟩
      | onward step going rest =>
          have safe := stepSafe reached onward step
          have later := hypothesis (safe.onward _ rfl).1 (WalkState.stepsLeft_pos going) rest
          exact later.prepend safe (stepsLeft_lt onward step)
            ⟨itinerary.pause.lower_le_drawn representable _,
              itinerary.pause.drawn_le representable _⟩ rfl rfl

/-! ## The number of steps -/

/-- A step can be followed by anything that does the same after the values in which the
step may end. -/
theorem perform_bind_congr
    {walker : Walker}
    {step : WalkStep α}
    {next next' : α → WalkStep β}
    (same : ∀ events value after, Yields (walker.perform step) events (.ok value, after) →
      after.perform (next value) = after.perform (next' value)) :
    walker.perform (step >>= next) = walker.perform (step >>= next') := by
  rw [Walker.perform_bind, Walker.perform_bind]
  apply bind_congr_of_yields
  rintro events ⟨_ | value, after⟩ yields
  · rfl
  · exact same events value after yields

theorem yields_of_attempt
    {walker after : Walker}
    {step : WalkStep α}
    (yields : Yields (walker.perform step.attempt) events (.ok (.ok value), after)) :
    Yields (walker.perform step) events (.ok value, after) := by
  rw [Walker.perform_attempt, yields_bind] at yields
  obtain ⟨before, later, ⟨(_ | _) | _, middle⟩, rfl, first, ended⟩ := yields <;>
    obtain ⟨rfl, same⟩ := yields_finish.mp ended <;>
    cases same
  rwa [List.append_nil]

/-- A walk does not depend on how many steps it is granted, if these are enough. -/
theorem perform_walkOn_eq
    {itinerary : Itinerary}
    (enough : state.stepsLeft ≤ steps)
    (enough' : state.stepsLeft ≤ steps')
    (onward : 0 < state.stepsLeft)
    (walker : Walker) :
    walker.perform (walkOn itinerary steps state) =
      walker.perform (walkOn itinerary steps' state) := by
  induction steps generalizing steps' state walker with
  | zero => exact absurd (onward.trans_le enough) (Nat.lt_irrefl 0)
  | succ steps hypothesis =>
      obtain ⟨steps', rfl⟩ := Nat.exists_eq_succ_of_ne_zero (onward.trans_le enough').ne'
      rw [walkOn, walkOn]
      apply perform_bind_congr
      intro events moved after yields
      cases moved with
      | error error => rfl
      | ok next =>
          have fewer := stepsLeft_lt onward (yields_of_attempt yields)
          apply perform_bind_congr
          intro _ _ _ _
          apply perform_bind_congr
          intro _ _ _ _
          split_ifs with isEnd
          · rfl
          · apply perform_bind_congr
            intro _ _ _ _
            apply perform_bind_congr
            intro _ _ resting _
            exact hypothesis (by omega) (by omega)
              (WalkState.stepsLeft_pos (by simpa using isEnd)) resting

end WalkStep

/-! ## Whole walks, alone and in company -/

/-- An activity that is carried out alone comes to its end, and its trace tells what
happened. -/
theorem Activity.exists_yields_alone
    (activity : Activity Note α)
    (api : Api)
    (trace : Trace Note) :
    ∃ events, Yields activity events (activity.alone api trace).1 ∧ AnsweredBy api events ∧
      (activity.alone api trace).2 =
        ⟨trace.now + Event.span events,
          trace.requests ++ ((exchanges events).map Prod.fst).toArray,
          trace.notes ++ (entries events).toArray⟩ := by
  induction activity generalizing trace with
  | finish result => exact ⟨[], .here _, answeredBy_nil api, by simp [alone, exchanges, entries]⟩
  | request url resume hypothesis =>
      obtain ⟨events, yields, answered, same⟩ :=
        hypothesis (api.answer trace.requests.size url)
          { trace with
            now := trace.now + (api trace.requests.size url).latency.waitMilliseconds
            requests := trace.requests.push url }
      refine ⟨.exchanged url (api.answer trace.requests.size url) :: events,
        .exchanged url _ yields, ?_, same.trans ?_⟩
      · intro other answer present
        rcases List.mem_cons.mp present with first | later
        · cases first
          exact ⟨_, rfl⟩
        · exact answered other answer later
      · simp [exchanges, entries, Event.wait, wait_answer, List.filterMap_cons, Nat.add_assoc]
  | pause length resume hypothesis =>
      obtain ⟨events, yields, answered, same⟩ :=
        hypothesis { trace with now := trace.now + length.waitMilliseconds }
      refine ⟨.rested length :: events, .rested length yields, ?_, same.trans ?_⟩
      · intro other answer present
        exact answered other answer (by simpa using present)
      · simp [exchanges, entries, Event.wait, List.filterMap_cons, Nat.add_assoc]
  | note entry resume hypothesis =>
      obtain ⟨events, yields, answered, same⟩ :=
        hypothesis { trace with notes := trace.notes.push entry }
      refine ⟨.noted entry :: events, .noted entry yields, ?_, same.trans ?_⟩
      · intro other answer present
        exact answered other answer (by simpa using present)
      · simp [exchanges, entries, Event.wait, List.filterMap_cons]

/-- An API that never breaks down did not break down in the course of what it answered. -/
theorem not_brokeDown
    {api : Api}
    {events : List (Event WalkNote)}
    (sound : ∀ place url text, (api place url).reply ≠ .broken text)
    (answered : AnsweredBy api events) :
    ¬BrokeDown events := by
  rintro ⟨url, elapsed, text, present⟩
  obtain ⟨place, same⟩ := answered url _ present
  exact sound place url text (congrArg Answer.reply same).symm

namespace Walker

/-- What becomes of a walker whose walk is over. -/
def conclude (after : Walker) : Except (Mishap WalkError) Ending → Except Fault WalkOutcome
  | .ok ending => .ok ⟨after.id, after.selections, ending⟩
  | .error (.error error) => .ok ⟨after.id, after.selections, .aborted error⟩
  | .error (.fault fault) => .error fault

theorem walk_eq (itinerary : Itinerary) (walker : Walker) :
    walker.walk itinerary =
      walker.perform (WalkStep.walkOn itinerary WalkStep.longestWalk .start) >>= fun ended =>
        .finish (ended.2.conclude ended.1) := by
  refine congrArg (walker.perform _ >>= ·) (funext fun ended => ?_)
  rcases ended with ⟨(_ | _) | _, _⟩ <;> rfl

/-- Every walk from the start is safe. -/
theorem exists_walkSafe
    {itinerary : Itinerary}
    {walker : Walker}
    (representable : itinerary.pause.IsRepresentable)
    (yields : Yields (walker.walk itinerary) events result) :
    ∃ ended after, WalkStep.WalkSafe itinerary.pause [] 4 walker events ended after ∧
      result = after.conclude ended := by
  rw [walk_eq, yields_bind] at yields
  obtain ⟨before, later, ⟨ended, after⟩, rfl, walked, finished⟩ := yields
  obtain ⟨rfl, rfl⟩ := yields_finish.mp finished
  have reached : WalkState.Reached [] .start := rfl
  rw [List.append_nil]
  exact ⟨ended, after, WalkStep.walkSafe representable reached (Nat.succ_pos 3) walked, rfl⟩

/-- A walk of a fresh walker, in the course of which the API did not break down, ends in
an outcome. -/
theorem exists_outcome
    {itinerary : Itinerary}
    {walker : Walker}
    (representable : itinerary.pause.IsRepresentable)
    (fresh : walker.selections = [])
    (yields : Yields (walker.walk itinerary) events result)
    (sound : ¬BrokeDown events) :
    ∃ outcome, result = .ok outcome ∧
      (∀ selection ∈ outcome.selections, selection.IsWithin (exchanges events)) ∧
      (exchanges events).length ≤ 6 ∧ (rests events).length ≤ 3 ∧ transitions events ≤ 4 := by
  obtain ⟨ended, after, safe, rfl⟩ := exists_walkSafe representable yields
  obtain ⟨later, chosen, within⟩ := safe.selections
  rw [fresh, List.nil_append] at chosen
  rw [← chosen] at within
  have bounds := And.intro safe.few (And.intro (Nat.le_of_lt_succ safe.pauses) safe.steps)
  rcases ended with (error | fault) | ending
  · exact absurd rfl (safe.settled error)
  · exact absurd (safe.faultless fault rfl).brokeDown sound
  · exact ⟨_, rfl, within, bounds⟩

/-- A walk cannot go wrong by itself.  Whatever words a walker draws, and however its
requests are answered, as long as none of them breaks down, it ends in an outcome, after
six requests, three pauses and four steps at most, and every choice that it made is within
the list that it was made from.  In particular it does so before every API that never
breaks down, where its trace tells what happened.  No step is left undone for want of a
longer walk, and below every length but zero an index is drawn. -/
theorem walk_cannot_go_wrong
    {itinerary : Itinerary}
    (representable : itinerary.pause.IsRepresentable)
    (id : Nat)
    (generator : Generator) :
    (∀ events result, Yields (walk itinerary { id, generator }) events result →
      ¬BrokeDown events →
      ∃ outcome, result = .ok outcome ∧
        (∀ selection ∈ outcome.selections, selection.IsWithin (exchanges events)) ∧
        (exchanges events).length ≤ 6 ∧ (rests events).length ≤ 3 ∧
        transitions events ≤ 4) ∧
      (∀ api : Api, (∀ place url text, (api place url).reply ≠ .broken text) →
        ∃ events outcome, (walk itinerary { id, generator }).alone api .empty =
            (.ok outcome, ⟨Event.span events, ((exchanges events).map Prod.fst).toArray,
              (entries events).toArray⟩) ∧
          AnsweredBy api events ∧
          Yields (walk itinerary { id, generator }) events (.ok outcome)) ∧
      (∀ steps, WalkStep.longestWalk ≤ steps →
        ({ id, generator } : Walker).perform (.walkOn itinerary steps .start) =
          ({ id, generator } : Walker).perform
            (.walkOn itinerary WalkStep.longestWalk .start)) ∧
      ∀ (random : Generator) (length : Nat), 0 < length →
        ∃ index words, random.nextIndex? length = some (index, random.skip words) ∧
          index < length := by
  refine ⟨?_, ?_, ?_, ?_⟩
  · intro events result yields sound
    exact exists_outcome representable rfl yields sound
  · intro api sound
    obtain ⟨events, yields, answered, trace⟩ :=
      exists_yields_alone (walk itinerary { id, generator }) api .empty
    obtain ⟨outcome, ended, _⟩ :=
      exists_outcome representable rfl yields (not_brokeDown sound answered)
    refine ⟨events, outcome, Prod.ext ended (trace.trans ?_), answered, ended ▸ yields⟩
    simp [Trace.empty]
  · intro steps enough
    have onward : 0 < WalkState.start.stepsLeft := Nat.succ_pos 3
    exact WalkStep.perform_walkOn_eq enough (Nat.le_refl 4) onward _
  · intro random length positive
    exact random.exists_nextIndex positive

end Walker

/-- An API with one system and one route, whose only stop is answered in some way. -/
def oneStop (stop : Reply) : Api := fun _ url =>
  ⟨.ofMilliseconds 5,
    match url.path with
    | "/" => .body (Json.utf8 "\x7b\"systems\": \x7b\"href\": \"systems\"\x7d\x7d")
    | "/systems" => .body (Json.utf8 "[\x7b\"href\": \"system\"\x7d]")
    | "/system" => .body (Json.utf8 "\x7b\"routes\": \x7b\"href\": \"routes\"\x7d\x7d")
    | "/routes" => .body (Json.utf8 "[\x7b\"href\": \"route\"\x7d]")
    | "/route" =>
        .body (Json.utf8
          "\x7b\"service_maps\": [\x7b\"stops\": [\x7b\"href\": \"stop\"\x7d]\x7d]\x7d")
    | _ => stop⟩

/-- A walker goes from choice to choice before `oneStop`, whose stop is not found. -/
theorem Walker.walk_cannot_go_wrong_oneStop :
    DelayRange.zero.IsRepresentable ∧
      ∃ (events : List (Event WalkNote)) (outcome : WalkOutcome),
        ((Walker.walk ⟨Settings.defaults.baseUrl, .zero⟩ ⟨0, ⟨fun _ => 0, 0⟩, []⟩).alone
          (oneStop (.status 404)) .empty).1 = .ok outcome ∧
        outcome.selections = [⟨.system, 0⟩, ⟨.route, 0⟩, ⟨.stop, 0⟩] ∧
        (∀ selection ∈ outcome.selections, selection.IsWithin (exchanges events)) ∧
        (exchanges events).length ≤ 6 := by
  have representable : DelayRange.zero.IsRepresentable := ⟨by decide, by decide⟩
  obtain ⟨safe, alone, _⟩ := Walker.walk_cannot_go_wrong
    (show (⟨Settings.defaults.baseUrl, .zero⟩ : Itinerary).pause.IsRepresentable from
      representable) 0 ⟨fun _ => 0, 0⟩
  have sound : ∀ place url text,
      (oneStop (.status 404) place url).reply ≠ .broken text := by
    intro place url text
    unfold oneStop
    split <;> nofun
  obtain ⟨events, outcome, ended, answered, yields⟩ := alone _ sound
  obtain ⟨_, ⟨⟩, within, few, _⟩ := safe events _ yields (not_brokeDown sound answered)
  have chosen : ((Walker.walk ⟨Settings.defaults.baseUrl, .zero⟩ ⟨0, ⟨fun _ => 0, 0⟩, []⟩).alone
      (oneStop (.status 404)) .empty).1.toOption.map WalkOutcome.selections =
      some [⟨.system, 0⟩, ⟨.route, 0⟩, ⟨.stop, 0⟩] := by decide +kernel
  rw [ended] at chosen
  exact ⟨representable, events, outcome, congrArg Prod.fst ended, Option.some.inj chosen, within,
    few⟩

end TransitLoad
