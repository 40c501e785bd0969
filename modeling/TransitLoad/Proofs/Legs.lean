import TransitLoad.Proofs.Delays
import TransitLoad.Proofs.Steps

/-!
# The legs of a walk

From one document to the next, a walker takes a leg: it resolves a link, fetches the list
behind it, chooses one of the elements, and fetches the document of that.  Whatever an API
answers, every choice is made among something, and every index that is drawn is below the
length that it was drawn for.
-/

namespace TransitLoad

open Activity

/-! ## Choices -/

namespace Generator

/-- The high half of the next word times a length. -/
def coarseIndex (generator : Generator) (length : Nat) : Nat :=
  (generator.word generator.position).toNat * length / UInt32.size

/-- The low half of the next word times a length. -/
def remainder (generator : Generator) (length : Nat) : Nat :=
  (generator.word generator.position).toNat * length % UInt32.size

/-- What the word after the next one carries into the remainder. -/
def carry (generator : Generator) (length : Nat) : Nat :=
  (generator.word (generator.position + 1)).toNat * length / UInt32.size

theorem nextIndex?_eq
    (generator : Generator)
    (positive : 0 < length) :
    generator.nextIndex? length =
      if (UInt32.size - length) % UInt32.size < generator.remainder length then
        if UInt32.size ≤ generator.remainder length + generator.carry length then
          some (generator.coarseIndex length + 1, generator.skip 2)
        else some (generator.coarseIndex length, generator.skip 2)
      else some (generator.coarseIndex length, generator.skip 1) := by
  unfold nextIndex?
  rw [if_neg positive.ne']
  rfl

/-- An index that a finer word carries into stays below the length: no word, however fine,
reaches the length itself. -/
theorem coarseIndex_add_one_lt
    {generator : Generator}
    (carries : UInt32.size ≤ generator.remainder length + generator.carry length) :
    generator.coarseIndex length + 1 < length := by
  have coarse : (generator.word generator.position).toNat < UInt32.size :=
    UInt32.toNat_lt_size _
  have fine : (generator.word (generator.position + 1)).toNat < UInt32.size :=
    UInt32.toNat_lt_size _
  unfold coarseIndex remainder carry at *
  generalize (generator.word generator.position).toNat = word at *
  generalize (generator.word (generator.position + 1)).toNat = finer at *
  have positive : 0 < length := by
    by_contra none
    obtain rfl : length = 0 := Nat.eq_zero_of_not_pos none
    simp only [Nat.mul_zero, Nat.zero_mod, Nat.zero_div] at carries
    omega
  have less : finer * length / UInt32.size < length :=
    Nat.div_lt_of_lt_mul (Nat.mul_lt_mul_of_pos_right fine positive)
  have parts := Nat.div_add_mod (word * length) UInt32.size
  have next : (word + 1) * length ≤ UInt32.size * length := Nat.mul_le_mul_right length coarse
  rw [Nat.succ_mul] at next
  apply Nat.lt_of_mul_lt_mul_left (a := UInt32.size)
  rw [Nat.mul_succ]
  omega

/-- Below every length but zero an index is drawn, also where the correction of its bias
takes one more word. -/
theorem exists_nextIndex
    (generator : Generator)
    (positive : 0 < length) :
    ∃ index words, generator.nextIndex? length = some (index, generator.skip words) ∧
      index < length := by
  have coarse : (generator.word generator.position).toNat < UInt32.size :=
    UInt32.toNat_lt_size _
  have below : generator.coarseIndex length < length :=
    Nat.div_lt_of_lt_mul (Nat.mul_lt_mul_of_pos_right coarse positive)
  rw [nextIndex?_eq generator positive]
  split_ifs with _ carries
  · exact ⟨_, 2, rfl, coarseIndex_add_one_lt carries⟩
  · exact ⟨_, 2, rfl, below⟩
  · exact ⟨_, 1, rfl, below⟩

end Generator

namespace Draw

theorem from?_bind
    (draw : Draw α)
    (next : α → Draw β)
    (generator : Generator) :
    from? (draw >>= next) generator =
      match from? draw generator with
      | (.ok value, generator) => from? (next value) generator
      | (.error fault, generator) => (.error fault, generator) := by
  change (ExceptT.bindCont next (draw.from? generator).1).run (draw.from? generator).2 = _
  rcases draw.from? generator with ⟨_ | _, _⟩ <;> rfl

theorem from?_liftM (found : Except Fault α) (generator : Generator) :
    from? (liftM found) generator = (found, generator) := by
  cases found <;> rfl

theorem exists_index
    (generator : Generator)
    (positive : 0 < length) :
    ∃ index words, (Draw.index length).from? generator = (.ok index, generator.skip words) ∧
      index < length := by
  obtain ⟨index, words, drawn, below⟩ := generator.exists_nextIndex positive
  refine ⟨index, words, ?_, below⟩
  change Draw.index length generator = _
  rw [Draw.index, drawn]

theorem element_eq_ok
    {elements : List α}
    {index : Nat}
    (found : elements[index]? = some value) :
    Draw.element elements index = .ok value := by
  rw [Draw.element, found]

end Draw

/-- The index that is drawn decides which service map is chosen. -/
theorem Route.selectServiceMap_of_drawn
    {route : Route}
    (below : index < route.serviceMaps.length)
    (drawn : (Draw.index route.serviceMaps.length).from? generator = (.ok index, after)) :
    route.selectServiceMap.from? generator =
      (.ok (if route.serviceMaps[index].stops.isEmpty then
        route.serviceMaps.findIdx? fun serviceMap => !serviceMap.stops.isEmpty
      else some index), after) := by
  have some : route.serviceMaps.isEmpty = false := by
    simpa using List.ne_nil_of_length_pos (Nat.zero_lt_of_lt below)
  have found := Draw.element_eq_ok (List.getElem?_eq_getElem below)
  simp only [selectServiceMap, some, Bool.false_eq_true, if_false, Draw.from?_bind, drawn,
    Draw.from?_liftM, found]
  split_ifs <;> rfl

/-- A service map with stops is chosen, or none if there is none. -/
theorem Route.exists_selectServiceMap (route : Route) (generator : Generator) :
    ∃ map? words, route.selectServiceMap.from? generator = (.ok map?, generator.skip words) ∧
      match map? with
      | some map => ∃ serviceMap, route.serviceMaps[map]? = some serviceMap ∧
          serviceMap.stops ≠ []
      | none => ∀ serviceMap ∈ route.serviceMaps, serviceMap.stops = [] := by
  by_cases none : route.serviceMaps.isEmpty
  · refine ⟨.none, 0, ?_, ?_⟩
    · simp only [selectServiceMap, none, if_true]
      rfl
    · simp [List.isEmpty_iff.mp none]
  · have positive : 0 < route.serviceMaps.length := by
      rwa [List.length_pos_iff, ne_eq, ← List.isEmpty_iff]
    obtain ⟨index, words, drawn, below⟩ := Draw.exists_index generator positive
    refine ⟨_, words, selectServiceMap_of_drawn below drawn, ?_⟩
    split_ifs with empty
    · cases first : route.serviceMaps.findIdx? fun serviceMap => !serviceMap.stops.isEmpty with
      | none => simpa using first
      | some map =>
          obtain ⟨inside, stops, _⟩ := List.findIdx?_eq_some_iff_getElem.mp first
          exact ⟨_, List.getElem?_eq_getElem inside, by simpa using stops⟩
    · exact ⟨_, List.getElem?_eq_getElem below, by simpa using empty⟩

/-- A stop is at the place that is drawn of the service map that is chosen. -/
def Route.Offers
    (route : Route)
    (generator : Generator)
    (index : Nat)
    (summary : StopSummary) : Prop :=
  ∃ map after serviceMap last, route.selectServiceMap.from? generator = (.ok (some map), after) ∧
    route.serviceMaps[map]? = some serviceMap ∧ serviceMap.stops[index]? = some summary ∧
    (Draw.index serviceMap.stops.length).from? after = (.ok index, last)

/-! ## Documents -/

/-- What a walker makes of the answer to a request for a document of some kind. -/
def Answer.document
    (answer : Answer)
    (kind : ResourceKind)
    (url : Url)
    (α : Type)
    [Document α] : Except (Mishap WalkError) α :=
  match answer.decoded (Document.decode α) url with
  | .ok fetched => .ok fetched.value
  | .error (.error error) => .error (.error (.fetch kind error))
  | .error (.fault fault) => .error (.fault fault)

/-- A request for a document, noted and answered. -/
def Walker.visit
    (walker : Walker)
    (kind : ResourceKind)
    (url : Url)
    (answer : Answer) : List (Event WalkNote) :=
  [.noted (.fetching walker.id kind url), .exchanged url answer]

/-- The walker after it took some words and made a choice. -/
def Walker.chosen
    (walker : Walker)
    (words : Nat)
    (selection : Selection) : Walker :=
  { walker with
    generator := walker.generator.skip words
    selections := walker.selections ++ [selection] }

namespace Walker

theorem perform_document
    (walker : Walker)
    (kind : ResourceKind)
    (url : Url)
    (α : Type)
    [Document α] :
    walker.perform (.document kind url α) =
      .note (.fetching walker.id kind url)
        (.request url fun answer => .finish (answer.document kind url α, walker)) := by
  simp only [WalkStep.document, perform_bind, perform_get, perform_tell, perform_fetched,
    finish_bind, note_bind, request_bind]
  refine congrArg (Activity.note _ ∘ Activity.request url) (funext fun answer => ?_)
  rw [Answer.document]
  rcases answer.decoded (Document.decode α) url with (_ | _) | _ <;> rfl

theorem perform_choose_nil
    (walker : Walker)
    (kind : ResourceKind)
    (url : Url) :
    walker.perform (.choose kind ([] : List α) url) =
      .finish (.error (.error (.empty kind url)), walker) := rfl

/-- Among some resources, one of them is chosen. -/
theorem exists_perform_choose
    {resources : List α}
    (walker : Walker)
    (kind : ResourceKind)
    (some : resources ≠ [])
    (url : Url) :
    ∃ index words value, resources[index]? = .some value ∧
      (Draw.index resources.length).from? walker.generator =
        (.ok index, walker.generator.skip words) ∧
      walker.perform (.choose kind resources url) =
        .finish (.ok value, walker.chosen words ⟨kind, index⟩) := by
  obtain ⟨index, words, drawn, below⟩ :=
    Draw.exists_index walker.generator (List.length_pos_iff.mpr some)
  have found := List.getElem?_eq_getElem below
  have nonempty : resources.isEmpty = false := by simpa using some
  refine ⟨index, words, resources[index], found, drawn, ?_⟩
  simp only [WalkStep.choose, nonempty, Bool.false_eq_true, if_false, perform_bind,
    perform_draw, drawn, Except.mapError, finish_bind, perform_remember,
    Draw.element_eq_ok found, perform_orFault]
  rfl

end Walker

namespace WalkStep

/-- From a link to a list, to one of its elements, to the document of that. -/
def leg
    (itinerary : Itinerary)
    (kind : ResourceKind)
    (href : String)
    (Summary : Type)
    [Document Summary]
    (link : Summary → String)
    (Target : Type)
    [Document Target] : WalkStep Target := do
  let listUrl ← resolve itinerary kind href
  let summaries ← document kind listUrl (List Summary)
  let summary ← choose kind summaries listUrl
  let url ← resolve itinerary kind (link summary)
  document kind url Target

theorem fromStart_eq (itinerary : Itinerary) :
    fromStart itinerary = do
      let root ← document .root itinerary.baseUrl Root
      return .system
        (← leg itinerary .system root.systems.href SystemSummary SystemSummary.href System) := by
  simp only [fromStart, leg, bind_assoc]

theorem fromSystem_eq (itinerary : Itinerary) (system : System) :
    fromSystem itinerary system = do
      return .route
        (← leg itinerary .route system.routes.href RouteSummary RouteSummary.href Route) := by
  simp only [fromSystem, leg, bind_assoc]

/-- How a leg ends: with a link that cannot be resolved, a list that cannot be had or that
is empty, an element whose link cannot be resolved, or the answer to the request for the
document of the element. -/
inductive LegEnds
    (itinerary : Itinerary)
    (kind : ResourceKind)
    (href : String)
    (Summary : Type)
    [Document Summary]
    (link : Summary → String)
    (Target : Type)
    [Document Target]
    (walker : Walker) :
    List (Event WalkNote) → Except (Mishap WalkError) Target → Walker → Prop where
  | unresolved
      (unresolved : itinerary.baseUrl.join href = .error error) :
      LegEnds itinerary kind href Summary link Target walker
        [] (.error (.error (.invalidHref kind href error))) walker
  | unlisted
      (resolved : itinerary.baseUrl.join href = .ok url)
      (unlisted : answer.document kind url (List Summary) = .error mishap) :
      LegEnds itinerary kind href Summary link Target walker
        (walker.visit kind url answer) (.error mishap) walker
  | empty
      (resolved : itinerary.baseUrl.join href = .ok url)
      (listed : answer.document kind url (List Summary) = .ok []) :
      LegEnds itinerary kind href Summary link Target walker
        (walker.visit kind url answer) (.error (.error (.empty kind url))) walker
  | astray
      (resolved : itinerary.baseUrl.join href = .ok url)
      (listed : answer.document kind url (List Summary) = .ok summaries)
      (element : summaries[index]? = some summary)
      (unresolved : itinerary.baseUrl.join (link summary) = .error error)
      (words : Nat)
      (drawn : (Draw.index summaries.length).from? walker.generator =
        (.ok index, walker.generator.skip words)) :
      LegEnds itinerary kind href Summary link Target walker
        (walker.visit kind url answer)
        (.error (.error (.invalidHref kind (link summary) error)))
        (walker.chosen words ⟨kind, index⟩)
  | answered
      {url url' : Url}
      {answer : Answer}
      {summaries : List Summary}
      {summary : Summary}
      {index : Nat}
      (resolved : itinerary.baseUrl.join href = .ok url)
      (listed : answer.document kind url (List Summary) = .ok summaries)
      (element : summaries[index]? = some summary)
      (resolved' : itinerary.baseUrl.join (link summary) = .ok url')
      (answer' : Answer)
      (words : Nat)
      (drawn : (Draw.index summaries.length).from? walker.generator =
        (.ok index, walker.generator.skip words)) :
      LegEnds itinerary kind href Summary link Target walker
        (walker.visit kind url answer ++ walker.visit kind url' answer')
        (answer'.document kind url' Target)
        (walker.chosen words ⟨kind, index⟩)

theorem legEnds
    {walker after : Walker}
    {link : Summary → String}
    [Document Summary]
    [Document Target]
    (yields : Yields
      (walker.perform (leg itinerary kind href Summary link Target)) events (result, after)) :
    LegEnds itinerary kind href Summary link Target walker events result after := by
  rw [leg, Walker.perform_bind] at yields
  unfold resolve at yields
  cases resolved : itinerary.baseUrl.join href with
  | error error =>
      rw [resolved, Walker.perform_fail, finish_bind, yields_finish] at yields
      obtain ⟨rfl, ended⟩ := yields
      cases ended
      exact .unresolved resolved
  | ok url =>
      simp only [resolved, Walker.perform_pure, finish_bind, Walker.perform_bind,
        Walker.perform_document, note_bind, request_bind, yields_note, yields_request] at yields
      obtain ⟨_, rfl, answer, _, rfl, yields⟩ := yields
      cases listed : answer.document kind url (List Summary) with
      | error mishap =>
          rw [listed, yields_finish] at yields
          obtain ⟨rfl, ended⟩ := yields
          cases ended
          exact .unlisted resolved listed
      | ok summaries =>
          by_cases none : summaries = []
          · rw [none] at listed
            simp only [listed, Walker.perform_choose_nil, finish_bind, yields_finish] at yields
            obtain ⟨rfl, ended⟩ := yields
            cases ended
            exact .empty resolved listed
          · obtain ⟨index, words, summary, element, drawn, choice⟩ :=
              walker.exists_perform_choose kind none url
            simp only [listed, choice, finish_bind] at yields
            cases resolved' : itinerary.baseUrl.join (link summary) with
            | error error =>
                rw [resolved', Walker.perform_fail, finish_bind, yields_finish] at yields
                obtain ⟨rfl, ended⟩ := yields
                cases ended
                exact .astray resolved listed element resolved' words drawn
            | ok url' =>
                simp only [resolved', Walker.perform_pure, finish_bind, yields_note,
                  yields_request, yields_finish] at yields
                obtain ⟨_, rfl, answer', _, rfl, rfl, ended⟩ := yields
                cases ended
                exact .answered resolved listed element resolved' answer' words drawn

theorem yields_map
    {walker after : Walker}
    {step : WalkStep α}
    {next : α → β}
    (yields : Yields (walker.perform do return next (← step)) events (result, after)) :
    ∃ ended, Yields (walker.perform step) events (ended, after) ∧ result = ended.map next := by
  rcases Walker.yields_perform_bind.mp yields with
    ⟨mishap, rfl, failed⟩ | ⟨before, later, value, middle, rfl, succeeded, finished⟩
  · exact ⟨.error mishap, failed, rfl⟩
  · rw [Walker.perform_pure, yields_finish] at finished
    obtain ⟨rfl, ended⟩ := finished
    cases ended
    rw [List.append_nil]
    exact ⟨.ok value, succeeded, rfl⟩

theorem yields_document
    {walker after : Walker}
    [Document α]
    (yields : Yields (walker.perform (document kind url α)) events (result, after)) :
    ∃ answer, events = walker.visit kind url answer ∧
      result = answer.document kind url α ∧ after = walker := by
  rw [Walker.perform_document, yields_note] at yields
  obtain ⟨_, rfl, yields⟩ := yields
  obtain ⟨answer, _, rfl, finished⟩ := yields_request.mp yields
  obtain ⟨rfl, ended⟩ := yields_finish.mp finished
  cases ended
  exact ⟨answer, rfl, rfl, rfl⟩

/-- How the step from the start ends: with a root that cannot be had, or after it with the leg
to a system. -/
inductive StartEnds
    (itinerary : Itinerary)
    (walker : Walker) :
    List (Event WalkNote) → Except (Mishap WalkError) System → Walker → Prop where
  | rootless
      (lost : answer.document .root itinerary.baseUrl Root = .error mishap) :
      StartEnds itinerary walker (walker.visit .root itinerary.baseUrl answer)
        (.error mishap) walker
  | rooted
      {root : Root}
      (arrived : answer.document .root itinerary.baseUrl Root = .ok root)
      (leg : LegEnds itinerary .system root.systems.href SystemSummary SystemSummary.href System
        walker events result after) :
      StartEnds itinerary walker (walker.visit .root itinerary.baseUrl answer ++ events)
        result after

theorem startEnds
    {walker after : Walker}
    (yields : Yields (walker.perform (fromStart itinerary)) events (result, after)) :
    ∃ ended, StartEnds itinerary walker events ended after ∧ result = ended.map .system := by
  rw [fromStart_eq] at yields
  rcases Walker.yields_perform_bind.mp yields with
    ⟨mishap, rfl, failed⟩ | ⟨_, _, root, _, rfl, succeeded, goesOn⟩
  · obtain ⟨answer, rfl, lost, rfl⟩ := yields_document failed
    exact ⟨.error mishap, .rootless lost.symm, rfl⟩
  · obtain ⟨answer, rfl, arrived, rfl⟩ := yields_document succeeded
    obtain ⟨ended, leg, rfl⟩ := yields_map goesOn
    exact ⟨ended, .rooted arrived.symm (legEnds leg), rfl⟩

/-- The step from a system ends as the leg to a route does. -/
theorem systemEnds
    {walker after : Walker}
    (yields : Yields (walker.perform (fromSystem itinerary system)) events (result, after)) :
    ∃ ended, LegEnds itinerary .route system.routes.href RouteSummary RouteSummary.href Route
        walker events ended after ∧
      result = ended.map .route := by
  rw [fromSystem_eq] at yields
  obtain ⟨ended, leg, rfl⟩ := yields_map yields
  exact ⟨ended, legEnds leg, rfl⟩

/-- How the leg to a stop ends: without any stops, with a link that cannot be resolved, or
with the answer to the request of a stop. -/
inductive StopLegEnds
    (itinerary : Itinerary)
    (route : Route)
    (walker : Walker) :
    List (Event WalkNote) → Except (Mishap WalkError) WalkState → Walker → Prop where
  | noStops
      (none : ∀ serviceMap ∈ route.serviceMaps, serviceMap.stops = [])
      (words : Nat) :
      StopLegEnds itinerary route walker [.noted (.noStops walker.id)] (.ok .atEnd)
        { walker with generator := walker.generator.skip words }
  | astray
      (offered : route.Offers walker.generator index summary)
      (unresolved : itinerary.baseUrl.join summary.href = .error error)
      (words : Nat) :
      StopLegEnds itinerary route walker [.noted .failure]
        (.error (.error (.invalidHref .stop summary.href error)))
        (walker.chosen words ⟨.stop, index⟩)
  | failed
      (offered : route.Offers walker.generator index summary)
      (resolved : itinerary.baseUrl.join summary.href = .ok url)
      (failed : answer.decoded (Document.decode Stop) url = .error (.error error))
      (words : Nat) :
      StopLegEnds itinerary route walker [.exchanged url answer, .noted .failure]
        (.error (.error (.fetch .stop error))) (walker.chosen words ⟨.stop, index⟩)
  | lost
      (offered : route.Offers walker.generator index summary)
      (resolved : itinerary.baseUrl.join summary.href = .ok url)
      (lost : answer.decoded (Document.decode Stop) url = .error (.fault fault))
      (words : Nat) :
      StopLegEnds itinerary route walker [.exchanged url answer] (.error (.fault fault))
        (walker.chosen words ⟨.stop, index⟩)
  | reached
      {fetched : Fetched Stop}
      (offered : route.Offers walker.generator index summary)
      (resolved : itinerary.baseUrl.join summary.href = .ok url)
      (reached : answer.decoded (Document.decode Stop) url = .ok fetched)
      (words : Nat) :
      StopLegEnds itinerary route walker
        [.exchanged url answer, .noted (.sample .stop fetched.elapsed)]
        (.ok (.stop fetched.value)) (walker.chosen words ⟨.stop, index⟩)

/-- What follows the choice of a stop. -/
theorem stopLegEnds_of_offered
    {walker after : Walker}
    (offered : route.Offers walker.generator index summary)
    (yields : Yields
      ((walker.chosen words ⟨.stop, index⟩).perform do
        match ← attempt (fetchStop itinerary summary.href) with
        | .ok fetched => do
            tell (.sample .stop fetched.elapsed)
            return .stop fetched.value
        | .error error => do
            tell .failure
            fail error) events (result, after)) :
    StopLegEnds itinerary route walker events result after := by
  rw [Walker.perform_bind, Walker.perform_attempt, fetchStop, Walker.perform_bind] at yields
  unfold resolve at yields
  cases resolved : itinerary.baseUrl.join summary.href with
  | error error =>
      simp only [resolved, Walker.perform_fail, Walker.perform_bind, Walker.perform_tell,
        finish_bind, note_bind, yields_note, yields_finish] at yields
      obtain ⟨_, rfl, rfl, ended⟩ := yields
      cases ended
      exact .astray offered resolved words
  | ok url =>
      simp only [resolved, Walker.perform_pure, Walker.perform_fetched, finish_bind,
        request_bind, yields_request] at yields
      obtain ⟨answer, _, rfl, yields⟩ := yields
      rcases decoded : answer.decoded (Document.decode Stop) url with
        (error | fault) | fetched
      · simp only [decoded, Walker.perform_bind, Walker.perform_tell, Walker.perform_fail,
          finish_bind, note_bind, yields_note, yields_finish] at yields
        obtain ⟨_, rfl, rfl, ended⟩ := yields
        cases ended
        exact .failed offered resolved decoded words
      · simp only [decoded, finish_bind, yields_finish] at yields
        obtain ⟨rfl, ended⟩ := yields
        cases ended
        exact .lost offered resolved decoded words
      · simp only [decoded, Walker.perform_bind, Walker.perform_tell, Walker.perform_pure,
          finish_bind, note_bind, yields_note, yields_finish] at yields
        obtain ⟨_, rfl, rfl, ended⟩ := yields
        cases ended
        exact .reached offered resolved decoded words

theorem stopLegEnds
    {walker after : Walker}
    (yields : Yields (walker.perform (fromRoute itinerary route)) events (result, after)) :
    StopLegEnds itinerary route walker events result after := by
  obtain ⟨map?, words, selected, selectable⟩ := route.exists_selectServiceMap walker.generator
  rw [fromRoute, Walker.perform_bind, Walker.perform_draw, selected, finish_bind] at yields
  cases map? with
  | none =>
      simp only [Except.mapError, Walker.perform_bind, Walker.perform_get, Walker.perform_tell,
        Walker.perform_pure, finish_bind, note_bind, yields_note, yields_finish] at yields
      obtain ⟨_, rfl, rfl, ended⟩ := yields
      cases ended
      exact .noStops selectable words
  | some map =>
      obtain ⟨serviceMap, found, stops⟩ := selectable
      obtain ⟨index, further, drawn, below⟩ := Draw.exists_index (walker.generator.skip words)
        (List.length_pos_iff.mpr stops)
      have element := List.getElem?_eq_getElem below
      have offered : route.Offers walker.generator index serviceMap.stops[index] :=
        ⟨map, _, serviceMap, _, selected, found, element, drawn⟩
      simp only [Except.mapError] at yields
      rw [Walker.perform_bind, Walker.perform_orFault, Draw.element_eq_ok found] at yields
      simp only [Except.mapError, finish_bind] at yields
      rw [Walker.perform_bind, Walker.perform_draw, drawn] at yields
      simp only [Except.mapError, finish_bind, Generator.skip_skip] at yields
      rw [Walker.perform_bind, Walker.perform_remember, finish_bind] at yields
      simp only at yields
      rw [Walker.perform_bind, Walker.perform_orFault, Draw.element_eq_ok element] at yields
      exact stopLegEnds_of_offered offered yields

end WalkStep

end TransitLoad
