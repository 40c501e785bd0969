import TransitLoad.Proofs.WalkSafety

/-!
# The chain of requests

Each request of a walk follows from the document that the request before it brought: from the
root to the list of systems, to a system, to the list of its routes, to a route, to a stop.
Every link is resolved against the base URL.  A walk requests the links of its chain up to
the first one that cannot be had, and what keeps this one from being had is what the walk
ends in.
-/

namespace TransitLoad

open Activity Reader

/-! ## Links -/

/-- Why a chain has no further link. -/
inductive ChainEnd where
  /-- Something went wrong. -/
  | mishap (mishap : Mishap WalkError)
  /-- No service map of the route has a stop. -/
  | noStops

/-- A fault is a mishap. -/
def ChainEnd.orFault (result : Except Fault α) : Except ChainEnd α :=
  result.mapError fun fault => .mishap (.fault fault)

theorem ChainEnd.orFault_ok (value : α) : orFault (.ok value) = .ok value := rfl

/-- The URLs that were requested in the course of some events are the first ones of some
links, up to the first that cannot be had. -/
def Requested
    (links : List (Except ChainEnd Url))
    (events : List (Event WalkNote)) : Prop :=
  (exchanges events).map (fun exchange => Except.ok exchange.1) = links.takeWhile Except.isOk

namespace Requested

theorem takeWhile_eq_self
    {links : List (Except ChainEnd Url)}
    (reached : ∀ link ∈ links, link.isOk = true) :
    links.takeWhile Except.isOk = links := by
  conv_lhs => rw [← List.append_nil links]
  rw [List.takeWhile_append_of_pos reached, List.takeWhile_nil, List.append_nil]

/-- What is requested after all of some links comes after them. -/
theorem append
    (requested : Requested links before)
    (reached : ∀ link ∈ links, link.isOk = true)
    (requested' : Requested links' later) :
    Requested (links ++ links') (before ++ later) := by
  unfold Requested at *
  rw [exchanges_append, List.map_append, requested, requested',
    List.takeWhile_append_of_pos reached, takeWhile_eq_self reached]

/-- Links that cannot be had are not requested. -/
theorem append_missing
    (requested : Requested links events)
    (missing : ∀ link ∈ links', link.isOk = false) :
    Requested (links ++ links') events := by
  have none : links'.takeWhile Except.isOk = [] := by
    cases links' with
    | nil => rfl
    | cons link more => simp [missing link (List.mem_cons_self ..)]
  unfold Requested at *
  rw [requested, List.takeWhile_append, none, List.append_nil]
  split_ifs with all
  · exact (List.takeWhile_prefix _).eq_of_length all
  · rfl

/-- Notes and pauses request nothing. -/
theorem append_idle
    (requested : Requested links before)
    (idle : exchanges later = []) :
    Requested links (before ++ later) := by
  unfold Requested at *
  rw [exchanges_append, idle, List.append_nil, requested]

end Requested

/-- Some resources to choose from, the index that is drawn for them, the words that are left
then, and the URL and the document of the one that is chosen. -/
structure ChainLeg (Summary Target : Type) where
  summaries : Except ChainEnd (List Summary)
  index : Except ChainEnd Nat
  after : Generator
  url : Except ChainEnd Url
  target : Except ChainEnd Target

/-- A leg without anything to choose from. -/
def ChainLeg.none (failure : ChainEnd) (generator : Generator) : ChainLeg Summary Target :=
  ⟨.error failure, .error failure, generator, .error failure, .error failure⟩

/-- The choice that is remembered of a leg, if there was one. -/
def ChainLeg.choice
    (leg : ChainLeg Summary Target)
    (kind : ResourceKind) : List Selection :=
  match leg.index with
  | .ok index => [⟨kind, index⟩]
  | .error _ => []

/-- All that decides where a walk leads: what the walkers have in common, the reply that the
API has for each URL, and the words of the walker. -/
structure WalkPlan where
  itinerary : Itinerary
  reply : Url → Reply
  generator : Generator

namespace WalkPlan

/-- The document that a URL leads to. -/
def document
    (plan : WalkPlan)
    (kind : ResourceKind)
    (url : Url)
    (α : Type)
    [Document α] : Except ChainEnd α :=
  match plan.reply url with
  | .body bytes =>
      match Document.decode α bytes with
      | .ok value => .ok value
      | .error error => .error (.mishap (.error (.fetch kind (.decode url error))))
  | .status code => .error (.mishap (.error (.fetch kind (.status url code))))
  | .unreachable text => .error (.mishap (.error (.fetch kind (.transport url text))))
  | .broken text => .error (.mishap (.fault (.brokenRequest text)))

/-- The URL that a link stands for: the base URL joined with it. -/
def resolve (plan : WalkPlan) (kind : ResourceKind) (href : String) : Except ChainEnd Url :=
  match plan.itinerary.baseUrl.join href with
  | .ok url => .ok url
  | .error error => .error (.mishap (.error (.invalidHref kind href error)))

/-- The list that a URL leads to.  An empty one is as good as none. -/
def list
    (plan : WalkPlan)
    (kind : ResourceKind)
    (url : Url)
    (Summary : Type)
    [Document Summary] : Except ChainEnd (List Summary) := do
  match ← plan.document kind url (List Summary) with
  | [] => .error (.mishap (.error (.empty kind url)))
  | summaries => .ok summaries

/-- From some resources to one of them. -/
def leg
    (plan : WalkPlan)
    (kind : ResourceKind)
    (summaries : Except ChainEnd (List Summary))
    (link : Summary → String)
    (generator : Generator)
    (Target : Type)
    [Document Target] : ChainLeg Summary Target :=
  let index := do
    ChainEnd.orFault ((Draw.index (← summaries).length).from? generator).1
  let url := do
    plan.resolve kind (link (← ChainEnd.orFault (Draw.element (← summaries) (← index))))
  { summaries
    index
    after := match summaries with
      | .ok summaries => ((Draw.index summaries.length).from? generator).2
      | .error _ => generator
    url
    target := do plan.document kind (← url) Target }

/-- From a route to one of the stops of the service map that is selected. -/
def stopLeg
    (plan : WalkPlan)
    (route : Except ChainEnd Route)
    (generator : Generator) : ChainLeg StopSummary Stop :=
  let stops := do
    match ← ChainEnd.orFault ((← route).selectServiceMap.from? generator).1 with
    | none => .error .noStops
    | some map => return (← ChainEnd.orFault (Draw.element (← route).serviceMaps map)).stops
  let after := match route with
    | .ok route => (route.selectServiceMap.from? generator).2
    | .error _ => generator
  plan.leg .stop stops StopSummary.href after Stop

/-- The root. -/
def root (plan : WalkPlan) : Except ChainEnd Root :=
  plan.document .root plan.itinerary.baseUrl Root

/-- Where the systems are listed, as the root says. -/
def systemsUrl (plan : WalkPlan) : Except ChainEnd Url := do
  plan.resolve .system (← plan.root).systems.href

/-- From the list of systems to one of them. -/
def systems (plan : WalkPlan) : ChainLeg SystemSummary System :=
  plan.leg .system (do plan.list .system (← plan.systemsUrl) SystemSummary)
    SystemSummary.href plan.generator System

/-- Where the routes are listed, as the system says. -/
def routesUrl (plan : WalkPlan) : Except ChainEnd Url := do
  plan.resolve .route (← plan.systems.target).routes.href

/-- From the list of routes to one of them, after a pause. -/
def routes (plan : WalkPlan) : ChainLeg RouteSummary Route :=
  plan.leg .route (do plan.list .route (← plan.routesUrl) RouteSummary)
    RouteSummary.href (plan.systems.after.skip plan.itinerary.pause.words) Route

/-- From the route to one of its stops, after a pause. -/
def stops (plan : WalkPlan) : ChainLeg StopSummary Stop :=
  plan.stopLeg plan.routes.target (plan.routes.after.skip plan.itinerary.pause.words)

/-- The links of the chain, one after another. -/
def links (plan : WalkPlan) : List (Except ChainEnd Url) :=
  [.ok plan.itinerary.baseUrl, plan.systemsUrl, plan.systems.url, plan.routesUrl,
    plan.routes.url, plan.stops.url]

/-- The choices that are made along the chain. -/
def selections (plan : WalkPlan) : List Selection :=
  plan.systems.choice .system ++ plan.routes.choice .route ++ plan.stops.choice .stop

/-- How a walk ends that comes to this at its stop. -/
def endingAt : Except ChainEnd Stop → Except Fault Ending
  | .ok _ => .ok .completed
  | .error .noStops => .ok .completed
  | .error (.mishap (.error error)) => .ok (.aborted error)
  | .error (.mishap (.fault fault)) => .error fault

/-! ## What a walk makes of a link -/

variable {plan : WalkPlan}

/-- Every request among some events was answered as the plan says. -/
def Answered (plan : WalkPlan) (events : List (Event WalkNote)) : Prop :=
  ∀ url answer, .exchanged url answer ∈ events → answer.reply = plan.reply url

theorem Answered.of_append
    (answered : plan.Answered (before ++ after)) :
    plan.Answered before ∧ plan.Answered after :=
  ⟨fun url answer present => answered url answer (List.mem_append_left _ present),
    fun url answer present => answered url answer (List.mem_append_right _ present)⟩

theorem document_eq
    {answer : Answer}
    (replied : answer.reply = plan.reply url)
    (kind : ResourceKind)
    (α : Type)
    [Document α] :
    plan.document kind url α = (answer.document kind url α).mapError .mishap := by
  rw [document, Answer.document, Answer.decoded, replied]
  cases plan.reply url with
  | body bytes => cases decoded : Document.decode α bytes <;> simp [decoded, Except.mapError]
  | status | unreachable | broken => rfl

theorem resolve_eq
    (joined : plan.itinerary.baseUrl.join href = .ok url)
    (kind : ResourceKind) :
    plan.resolve kind href = .ok url := by
  rw [resolve, joined]

theorem resolve_eq_error
    (unresolved : plan.itinerary.baseUrl.join href = .error error)
    (kind : ResourceKind) :
    plan.resolve kind href = .error (.mishap (.error (.invalidHref kind href error))) := by
  rw [resolve, unresolved]

theorem list_eq_ok
    [Document Summary]
    {summaries : List Summary}
    {answer : Answer}
    (replied : answer.reply = plan.reply url)
    (listed : answer.document kind url (List Summary) = .ok summaries)
    (some : summaries ≠ []) :
    plan.list kind url Summary = .ok summaries := by
  rw [list, document_eq replied, listed]
  cases summaries with
  | nil => exact absurd rfl some
  | cons => rfl

theorem leg_of_error
    [Document Target]
    (kind : ResourceKind)
    (failure : ChainEnd)
    (link : Summary → String)
    (generator : Generator) :
    plan.leg kind (.error failure) link generator Target = .none failure generator := rfl

theorem leg_of_drawn
    [Document Target]
    {summaries : List Summary}
    {generator after : Generator}
    (element : summaries[index]? = some summary)
    (drawn : (Draw.index summaries.length).from? generator = (.ok index, after))
    (kind : ResourceKind)
    (link : Summary → String) :
    plan.leg kind (.ok summaries) link generator Target =
      ⟨.ok summaries, .ok index, after, plan.resolve kind (link summary),
        do plan.document kind (← plan.resolve kind (link summary)) Target⟩ := by
  simp only [leg, ok_bind, drawn, Draw.element_eq_ok element, ChainEnd.orFault_ok]

/-! ## Legs -/

/-- A walker went along a leg, whose links are these. -/
structure Followed
    (links : List (Except ChainEnd Url))
    (leg : ChainLeg Summary Target)
    (kind : ResourceKind)
    (walker : Walker)
    (events : List (Event WalkNote))
    (result : Except (Mishap WalkError) Target)
    (after : Walker) : Prop where
  requested : Requested links events
  reached : ∀ value, result = .ok value → ∀ link ∈ links, link.isOk = true
  target : leg.target = result.mapError .mishap
  selections : after.selections = walker.selections ++ leg.choice kind
  generator : after.generator = leg.after
  id : after.id = walker.id

theorem followed
    [Document Summary]
    [Document Target]
    {walker after : Walker}
    {link : Summary → String}
    (ends : WalkStep.LegEnds plan.itinerary kind href Summary link Target walker events result
      after)
    (answered : plan.Answered events) :
    let url := plan.resolve kind href
    let leg := plan.leg kind (do plan.list kind (← url) Summary) link walker.generator Target
    Followed [url, leg.url] leg kind walker events result after := by
  cases ends with
  | unresolved unresolved =>
      simp only [resolve_eq_error unresolved]
      exact ⟨rfl, nofun, rfl, (List.append_nil _).symm, rfl, rfl⟩
  | @unlisted url answer mishap resolved unlisted =>
      have replied := answered url answer (by simp [Walker.visit])
      have list : plan.list kind url Summary = .error (.mishap mishap) := by
        rw [WalkPlan.list, document_eq replied, unlisted]
        rfl
      simp only [resolve_eq resolved, ok_bind, list]
      exact ⟨rfl, nofun, rfl, (List.append_nil _).symm, rfl, rfl⟩
  | @empty url answer resolved listed =>
      have replied := answered url answer (by simp [Walker.visit])
      have list : plan.list kind url Summary =
          .error (.mishap (.error (.empty kind url))) := by
        rw [WalkPlan.list, document_eq replied, listed]
        rfl
      simp only [resolve_eq resolved, ok_bind, list]
      exact ⟨rfl, nofun, rfl, (List.append_nil _).symm, rfl, rfl⟩
  | @astray url summaries index summary error answer resolved listed element unresolved words
      drawn =>
      have replied := answered url answer (by simp [Walker.visit])
      have list : plan.list kind url Summary = .ok summaries :=
        list_eq_ok replied listed (List.ne_nil_of_mem (List.mem_of_getElem? element))
      simp only [resolve_eq resolved, ok_bind, list, leg_of_drawn element drawn,
        resolve_eq_error unresolved]
      exact ⟨rfl, nofun, rfl, rfl, rfl, rfl⟩
  | @answered url url' answer summaries summary index resolved listed element resolved' answer'
      words drawn =>
      have replied := answered url answer (by simp [Walker.visit])
      have replied' := answered url' answer' (by simp [Walker.visit])
      have list : plan.list kind url Summary = .ok summaries :=
        list_eq_ok replied listed (List.ne_nil_of_mem (List.mem_of_getElem? element))
      simp only [resolve_eq resolved, ok_bind, list, leg_of_drawn element drawn,
        resolve_eq resolved']
      refine ⟨rfl, ?_, document_eq replied' kind Target, rfl, rfl, rfl⟩
      simp [Except.isOk, Except.toBool]

theorem selectServiceMap_of_noStops
    {route : Route}
    (none : ∀ serviceMap ∈ route.serviceMaps, serviceMap.stops = [])
    (generator : Generator) :
    ∃ after, route.selectServiceMap.from? generator = (.ok .none, after) := by
  obtain ⟨map?, words, selected, selectable⟩ := route.exists_selectServiceMap generator
  cases map? with
  | none => exact ⟨_, selected⟩
  | some map =>
      obtain ⟨serviceMap, found, stops⟩ := selectable
      exact absurd (none serviceMap (List.mem_of_getElem? found)) stops

theorem stopLeg_of_noStops
    {route : Route}
    (none : ∀ serviceMap ∈ route.serviceMaps, serviceMap.stops = [])
    (plan : WalkPlan)
    (generator : Generator) :
    ∃ after, plan.stopLeg (.ok route) generator = .none .noStops after := by
  obtain ⟨after, selected⟩ := selectServiceMap_of_noStops none generator
  refine ⟨after, ?_⟩
  simp only [stopLeg, ok_bind, selected, ChainEnd.orFault_ok, leg_of_error]

theorem stopLeg_of_offers
    {route : Route}
    {generator : Generator}
    (offered : route.Offers generator index summary)
    (plan : WalkPlan) :
    ∃ stops after, plan.stopLeg (.ok route) generator =
      ⟨.ok stops, .ok index, after, plan.resolve .stop summary.href,
        do plan.document .stop (← plan.resolve .stop summary.href) Stop⟩ := by
  obtain ⟨map, after, serviceMap, last, selected, found, element, drawn⟩ := offered
  refine ⟨serviceMap.stops, last, ?_⟩
  simp only [stopLeg, ok_bind, selected, ChainEnd.orFault_ok, Draw.element_eq_ok found]
  exact leg_of_drawn element drawn .stop StopSummary.href

theorem stopLeg_of_answer
    {route : Route}
    {generator : Generator}
    {answer : Answer}
    (offered : route.Offers generator index summary)
    (resolved : plan.itinerary.baseUrl.join summary.href = .ok url)
    (replied : answer.reply = plan.reply url) :
    ∃ stops after, plan.stopLeg (.ok route) generator =
      ⟨.ok stops, .ok index, after, .ok url,
        (answer.document .stop url Stop).mapError .mishap⟩ := by
  obtain ⟨stops, after, leg⟩ := stopLeg_of_offers offered plan
  refine ⟨stops, after, ?_⟩
  rw [leg, resolve_eq resolved, ok_bind, document_eq replied]

/-- The state that a walk reaches with what it comes to at its stop. -/
def stateAt : Except ChainEnd Stop → Except (Mishap WalkError) WalkState
  | .ok stop => .ok (.stop stop)
  | .error .noStops => .ok .atEnd
  | .error (.mishap mishap) => .error mishap

theorem stateAt_eq_error
    {stop : Except ChainEnd Stop}
    (same : .error mishap = stateAt stop) :
    stop = .error (.mishap mishap) := by
  rcases stop with (_ | _) | _ <;> cases same
  rfl

theorem stateAt_eq_ok
    {stop : Except ChainEnd Stop}
    (same : .ok state = stateAt stop) :
    endingAt stop = .ok .completed ∧
      (state.isEnd = false → ∃ value, state = .stop value) := by
  rcases stop with (_ | _) | value <;> cases same
  · exact ⟨rfl, nofun⟩
  · exact ⟨rfl, fun _ => ⟨value, rfl⟩⟩

/-- A walker went along the leg to a stop. -/
structure StopFollowed
    (leg : ChainLeg StopSummary Stop)
    (walker : Walker)
    (events : List (Event WalkNote))
    (result : Except (Mishap WalkError) WalkState)
    (after : Walker) : Prop where
  requested : Requested [leg.url] events
  result : result = stateAt leg.target
  selections : after.selections = walker.selections ++ leg.choice .stop
  id : after.id = walker.id

theorem stopFollowed
    {walker after : Walker}
    (ends : WalkStep.StopLegEnds plan.itinerary route walker events result after)
    (answered : plan.Answered events) :
    StopFollowed (plan.stopLeg (.ok route) walker.generator) walker events result after := by
  cases ends with
  | noStops none words =>
      obtain ⟨last, leg⟩ := stopLeg_of_noStops none plan walker.generator
      rw [leg]
      exact ⟨rfl, rfl, (List.append_nil _).symm, rfl⟩
  | astray offered unresolved words =>
      obtain ⟨stops, last, leg⟩ := stopLeg_of_offers offered plan
      rw [leg, resolve_eq_error unresolved]
      exact ⟨rfl, rfl, rfl, rfl⟩
  | @failed _ _ url answer error offered resolved failed words =>
      have replied := answered url answer (List.mem_cons_self ..)
      obtain ⟨stops, last, leg⟩ := stopLeg_of_answer offered resolved replied
      rw [leg, Answer.document, failed]
      exact ⟨rfl, rfl, rfl, rfl⟩
  | @lost _ _ url answer fault offered resolved lost words =>
      have replied := answered url answer (List.mem_cons_self ..)
      obtain ⟨stops, last, leg⟩ := stopLeg_of_answer offered resolved replied
      rw [leg, Answer.document, lost]
      exact ⟨rfl, rfl, rfl, rfl⟩
  | @reached _ _ url answer fetched offered resolved reached words =>
      have replied := answered url answer (List.mem_cons_self ..)
      obtain ⟨stops, last, leg⟩ := stopLeg_of_answer offered resolved replied
      rw [leg, Answer.document, reached]
      exact ⟨rfl, rfl, rfl, rfl⟩

/-! ## Walks -/

/-- What is left of a chain: links, choices, and what it comes to at its stop. -/
structure Rest where
  links : List (Except ChainEnd Url)
  choices : List Selection
  stop : Except ChainEnd Stop

/-- What is left of a chain at a route. -/
def restAtRoute (plan : WalkPlan) (route : Except ChainEnd Route) (generator : Generator) : Rest :=
  let leg := plan.stopLeg route generator
  ⟨[leg.url], leg.choice .stop, leg.target⟩

/-- What is left of a chain at a system. -/
def restAtSystem
    (plan : WalkPlan)
    (system : Except ChainEnd System)
    (generator : Generator) : Rest :=
  let url := do plan.resolve .route (← system).routes.href
  let leg := plan.leg .route (do plan.list .route (← url) RouteSummary)
    RouteSummary.href generator Route
  let rest := plan.restAtRoute leg.target (leg.after.skip plan.itinerary.pause.words)
  ⟨[url, leg.url] ++ rest.links, leg.choice .route ++ rest.choices, rest.stop⟩

/-- A walk came to its end along what was left of a chain. -/
structure Arrived
    (rest : Rest)
    (walker : Walker)
    (events : List (Event WalkNote))
    (result : Except (Mishap WalkError) Ending)
    (after : Walker) : Prop where
  requested : Requested rest.links events
  concluded : after.conclude result =
    (endingAt rest.stop).map fun ending => ⟨walker.id, walker.selections ++ rest.choices, ending⟩

/-- At a stop a walk comes to its end at once. -/
theorem exchanges_of_stop
    {walker after : Walker}
    (yields : Yields (walker.perform (.walkOn plan.itinerary (steps + 1) (.stop stop))) events
      (result, after)) :
    exchanges events = [] ∧ result = .ok .completed ∧ after = walker := by
  have performed : walker.perform (.walkOn plan.itinerary (steps + 1) (.stop stop)) =
      .note (.moved walker.id "stop" "end") (.finish (.ok .completed, walker)) := rfl
  rw [performed, yields_note] at yields
  obtain ⟨_, rfl, yields⟩ := yields
  obtain ⟨rfl, ended⟩ := yields_finish.mp yields
  cases ended
  exact ⟨rfl, rfl, rfl⟩

theorem arrived_of_route
    {walker after : Walker}
    (representable : plan.itinerary.pause.IsRepresentable)
    (yields : Yields (walker.perform (.walkOn plan.itinerary (steps + 2) (.route route))) events
      (result, after))
    (answered : plan.Answered events) :
    Arrived (plan.restAtRoute (.ok route) walker.generator) walker events result after := by
  cases WalkStep.walkedOn representable yields with
  | lost step =>
      have followed := stopFollowed (WalkStep.stopLegEnds step) answered
      refine ⟨followed.requested, ?_⟩
      rw [restAtRoute, stateAt_eq_error followed.result]
      rfl
  | aborted step =>
      have followed := stopFollowed (WalkStep.stopLegEnds step) answered.of_append.1
      refine ⟨followed.requested.append_idle rfl, ?_⟩
      rw [restAtRoute, stateAt_eq_error followed.result, Walker.conclude, followed.id,
        followed.selections]
      rfl
  | arrived step isEnd =>
      have followed := stopFollowed (WalkStep.stopLegEnds step) answered.of_append.1
      refine ⟨followed.requested.append_idle rfl, ?_⟩
      rw [restAtRoute, (stateAt_eq_ok followed.result).1, Walker.conclude, followed.id,
        followed.selections]
      rfl
  | onward step onward rest =>
      have followed := stopFollowed (WalkStep.stopLegEnds step) answered.of_append.1
      obtain ⟨completed, stopped⟩ := stateAt_eq_ok followed.result
      obtain ⟨stop, rfl⟩ := stopped onward
      obtain ⟨idle, rfl, rfl⟩ := exchanges_of_stop rest
      refine ⟨followed.requested.append_idle idle, ?_⟩
      rw [restAtRoute, completed, Walker.conclude, followed.id, followed.selections]
      rfl

/-- What is left of a chain that came to its end before. -/
structure Rest.IsMissing (rest : Rest) (failure : ChainEnd) : Prop where
  links : ∀ link ∈ rest.links, link.isOk = false
  choices : rest.choices = []
  stop : rest.stop = .error failure

theorem restAtRoute_isMissing
    (plan : WalkPlan)
    (generator : Generator)
    (failure : ChainEnd) :
    (plan.restAtRoute (.error failure) generator).IsMissing failure :=
  ⟨List.forall_mem_singleton.mpr rfl, rfl, rfl⟩

theorem restAtSystem_isMissing
    (plan : WalkPlan)
    (generator : Generator)
    (failure : ChainEnd) :
    (plan.restAtSystem (.error failure) generator).IsMissing failure :=
  ⟨List.forall_mem_cons.mpr ⟨rfl, List.forall_mem_cons.mpr
    ⟨rfl, List.forall_mem_singleton.mpr rfl⟩⟩, rfl, rfl⟩

/-- What is mapped to a failure is this failure. -/
theorem eq_error_of_map
    {found : Except (Mishap WalkError) α}
    {next : α → β}
    (same : .error mishap = found.map next) :
    found = .error mishap := by
  cases found <;> cases same
  rfl

/-- What is mapped to a value has a value. -/
theorem exists_of_map
    {found : Except (Mishap WalkError) α}
    {next : α → β}
    (same : .ok value = found.map next) :
    ∃ target, found = .ok target ∧ value = next target := by
  cases found with
  | error => cases same
  | ok target => exact ⟨target, rfl, Except.ok.inj same⟩

/-- A leg and the rest of the walk after it. -/
theorem arrived_of_leg
    {walker after : Walker}
    {leg : ChainLeg Summary Target}
    (walked : WalkStep.WalkedOn plan.itinerary steps state walker events result after)
    (answered : plan.Answered events)
    (next : Target → WalkState)
    (rest : Except ChainEnd Target → Rest)
    (follows : ∀ {events ended after},
      Yields (walker.perform (.transition plan.itinerary state)) events (ended, after) →
      plan.Answered events →
      ∃ found, ended = found.map next ∧ Followed legLinks leg kind walker events found after)
    (goesOn : ∀ target, (next target).isEnd = false)
    (missing : ∀ failure, (rest (.error failure)).IsMissing failure)
    (onward : ∀ {target events result after} {walker : Walker},
      walker.generator = leg.after.skip plan.itinerary.pause.words →
      Yields (walker.perform (.walkOn plan.itinerary steps (next target))) events
        (result, after) →
      plan.Answered events → Arrived (rest (.ok target)) walker events result after) :
    Arrived
      ⟨legLinks ++ (rest leg.target).links, leg.choice kind ++ (rest leg.target).choices,
        (rest leg.target).stop⟩
      walker events result after := by
  cases walked with
  | @lost events fault _ step =>
      obtain ⟨found, same, followed⟩ := follows step answered
      obtain rfl := eq_error_of_map same
      have lost := missing (.mishap (.fault fault))
      rw [followed.target]
      refine ⟨followed.requested.append_missing lost.links, ?_⟩
      simp only [Except.mapError, lost.stop]
      rfl
  | @aborted events error _ step =>
      obtain ⟨found, same, followed⟩ := follows step answered.of_append.1
      obtain rfl := eq_error_of_map same
      have lost := missing (.mishap (.error error))
      rw [followed.target]
      refine ⟨(followed.requested.append_missing lost.links).append_idle rfl, ?_⟩
      simp only [Except.mapError, lost.stop, lost.choices, List.append_nil, Walker.conclude,
        followed.selections, followed.id]
      rfl
  | arrived step isEnd =>
      obtain ⟨found, same, followed⟩ := follows step answered.of_append.1
      obtain ⟨target, rfl, rfl⟩ := exists_of_map same
      rw [goesOn] at isEnd
      cases isEnd
  | @onward events state' middle later _ _ step _ goingOn =>
      obtain ⟨found, same, followed⟩ := follows step answered.of_append.1
      obtain ⟨target, rfl, rfl⟩ := exists_of_map same
      have answered' : plan.Answered later := fun url answer present =>
        answered.of_append.2 url answer (List.mem_cons_of_mem _ (List.mem_cons_of_mem _ present))
      have arrived := onward (by rw [followed.generator]) goingOn answered'
      rw [followed.target]
      refine ⟨followed.requested.append (followed.reached target rfl) arrived.requested, ?_⟩
      rw [arrived.concluded, followed.selections, followed.id]
      simp only [Except.mapError, List.append_assoc]

theorem arrived_of_system
    {walker after : Walker}
    (representable : plan.itinerary.pause.IsRepresentable)
    (yields : Yields (walker.perform (.walkOn plan.itinerary (steps + 3) (.system system)))
      events (result, after))
    (answered : plan.Answered events) :
    Arrived (plan.restAtSystem (.ok system) walker.generator) walker events result after := by
  refine arrived_of_leg (WalkStep.walkedOn representable yields) answered .route
    (fun route => plan.restAtRoute route _) ?_ (fun _ => rfl) (plan.restAtRoute_isMissing _) ?_
  · intro events ended after step answered
    obtain ⟨found, leg, rfl⟩ := WalkStep.systemEnds step
    exact ⟨found, rfl, followed leg answered⟩
  · intro route events result after walker same yields answered
    rw [← same]
    exact arrived_of_route representable yields answered

/-- From the root to a system. -/
theorem followed_start
    {walker after : Walker}
    (own : walker.generator = plan.generator)
    (yields : Yields (walker.perform (.fromStart plan.itinerary)) events (result, after))
    (answered : plan.Answered events) :
    ∃ found, result = found.map .system ∧
      Followed [.ok plan.itinerary.baseUrl, plan.systemsUrl, plan.systems.url] plan.systems .system
        walker events found after := by
  obtain ⟨found, ends, rfl⟩ := WalkStep.startEnds yields
  refine ⟨found, rfl, ?_⟩
  cases ends with
  | @rootless answer mishap lost =>
      have replied := answered plan.itinerary.baseUrl answer (by simp [Walker.visit])
      have rootEq : plan.root = .error (.mishap mishap) := by
        rw [root, document_eq replied, lost]
        rfl
      simp only [systems, systemsUrl, rootEq, error_bind, leg_of_error]
      exact ⟨rfl, nofun, rfl, (List.append_nil _).symm, own, rfl⟩
  | @rooted _ _ _ answer root arrived ends =>
      obtain ⟨answered, answered'⟩ := answered.of_append
      have replied := answered plan.itinerary.baseUrl answer (by simp [Walker.visit])
      have rootEq : plan.root = .ok root := by
        rw [WalkPlan.root, document_eq replied, arrived]
        rfl
      have leg := followed ends answered'
      simp only [systems, systemsUrl, rootEq, ok_bind, ← own]
      refine ⟨?_, ?_, leg.target, leg.selections, leg.generator, leg.id⟩
      · have base : Requested [.ok plan.itinerary.baseUrl]
            (walker.visit .root plan.itinerary.baseUrl answer) := rfl
        exact base.append (fun link present => List.mem_singleton.mp present ▸ rfl) leg.requested
      · intro value same link present
        rcases List.mem_cons.mp present with rfl | present
        · rfl
        · exact leg.reached value same link present

/-- What is left of a chain at its beginning. -/
def chain (plan : WalkPlan) : Rest := ⟨plan.links, plan.selections, plan.stops.target⟩

theorem chain_eq (plan : WalkPlan) :
    plan.chain =
      let rest := plan.restAtSystem plan.systems.target
        (plan.systems.after.skip plan.itinerary.pause.words)
      ⟨[.ok plan.itinerary.baseUrl, plan.systemsUrl, plan.systems.url] ++ rest.links,
        plan.systems.choice .system ++ rest.choices, rest.stop⟩ := by
  simp only [chain, selections, List.append_assoc]
  rfl

theorem arrived
    (plan : WalkPlan)
    {walker after : Walker}
    (representable : plan.itinerary.pause.IsRepresentable)
    (own : walker.generator = plan.generator)
    (yields : Yields (walker.perform (.walkOn plan.itinerary WalkStep.longestWalk .start)) events
      (result, after))
    (answered : plan.Answered events) :
    Arrived plan.chain walker events result after := by
  rw [chain_eq]
  refine arrived_of_leg (WalkStep.walkedOn representable yields) answered .system
    (fun system => plan.restAtSystem system
      (plan.systems.after.skip plan.itinerary.pause.words))
    (followed_start own) (fun _ => rfl) (plan.restAtSystem_isMissing _) ?_
  intro system events result after walker same yields answered
  rw [← same]
  exact arrived_of_system representable yields answered

/-! ## Links that are there -/

/-- A chain goes on, or it ends in a mishap. -/
structure GoesOn (found : Except ChainEnd α) : Prop where
  ne : found ≠ .error .noStops

theorem GoesOn.bind
    {found : Except ChainEnd α}
    {next : α → Except ChainEnd β}
    (goesOn : GoesOn found)
    (later : ∀ value, GoesOn (next value)) :
    GoesOn (found >>= next) := by
  cases found with
  | error failure =>
      constructor
      rintro ⟨⟩
      exact goesOn.ne rfl
  | ok value => exact later value

end WalkPlan

namespace Walker

end Walker
end TransitLoad
