import TransitLoad.Activity
import TransitLoad.DelayRange
import TransitLoad.Log
import TransitLoad.Resource.Document
import TransitLoad.Stats

/-!
# Walks

A walker goes from the root of the API to a random system, to a random route of the
system, to a random stop of the route, and ends.  It pauses between its steps.  The
first problem ends the walk; nothing is tried again.  Every link is resolved against
the base URL of the test.

Only the request of a stop counts in the statistics: its time if it succeeds, and a
failure if it does not, whatever the reason.
-/

namespace TransitLoad

/-- A random choice that a walker made among resources of one kind. -/
structure Selection where
  kind : ResourceKind
  index : Nat
  deriving DecidableEq, Inhabited

/-- Where a walker is. -/
inductive WalkState where
  | start
  | system (system : System)
  | route (route : Route)
  | stop (stop : Stop)
  | atEnd
  deriving DecidableEq

namespace WalkState

/-- The name of a state. -/
def name : WalkState → String
  | .start => "start"
  | .system _ => "system"
  | .route _ => "route"
  | .stop _ => "stop"
  | .atEnd => "end"

/-- Whether the walk is over. -/
def isEnd : WalkState → Bool
  | .atEnd => true
  | _ => false

end WalkState

/-- Why a walk cannot go on. -/
inductive WalkError where
  /-- A document could not be fetched. -/
  | fetch (kind : ResourceKind) (error : FetchError)
  /-- There is nothing to choose from. -/
  | empty (kind : ResourceKind) (url : Url)
  /-- A link cannot be resolved. -/
  | invalidHref (kind : ResourceKind) (href : String) (error : UrlError)
  deriving DecidableEq

/-- The text that a walk error shows. -/
def WalkError.message : WalkError → String
  | .fetch kind error => s!"fetching {kind.name} failed: {error.message}"
  | .empty kind url => s!"no {kind.name} to choose from at {url.text}"
  | .invalidHref kind href error =>
      s!"invalid {kind.name} href {Text.quoted href}: {error.message}"

/-- How a walk ended. -/
inductive Ending where
  | completed
  | aborted (error : WalkError)
  deriving DecidableEq

/-- What remains of a walk. -/
structure WalkOutcome where
  walker : Nat
  selections : List Selection
  ending : Ending
  deriving DecidableEq

/-- What a walker notes on its way. -/
inductive WalkNote where
  /-- A request took this long. -/
  | sample (kind : ResourceKind) (latency : Duration)
  /-- A request failed. -/
  | failure
  /-- A request is about to be sent. -/
  | fetching (walker : Nat) (kind : ResourceKind) (url : Url)
  /-- A route has no stops at all. -/
  | noStops (walker : Nat)
  /-- A step succeeded. -/
  | moved (walker : Nat) (before after : String)
  /-- A step failed. -/
  | stopped (walker : Nat) (before : String) (error : WalkError)
  deriving DecidableEq

/-- The line of the log that belongs to a note, if there is one. -/
def WalkNote.line? : WalkNote → Option LogLine
  | .sample _ _ => none
  | .failure => none
  | .fetching walker kind url =>
      some ⟨.debug, .walker, s!"Walker {walker} fetching {kind.name} from {url.text}"⟩
  | .noStops walker =>
      some ⟨.debug, .walker, s!"Walker {walker} found no stops on any service map"⟩
  | .moved walker before after =>
      some ⟨.debug, .walker, s!"Walker {walker} moved {before} -> {after}"⟩
  | .stopped walker before error =>
      some ⟨.warning, .walker, s!"Walker {walker} aborted in {before} state: {error.message}"⟩

/-- What a note leaves in the statistics. -/
def Collector.take (collector : Collector) : WalkNote → Collector
  | .sample kind latency => collector.record kind latency
  | .failure => collector.recordFailure
  | _ => collector

/-- What all walkers of a test have in common. -/
structure Itinerary where
  baseUrl : Url
  pause : DelayRange
  deriving DecidableEq

/-- A walker: its number, its random words, and the choices it made so far. -/
structure Walker where
  id : Nat
  generator : Generator
  selections : List Selection := []

/-! ## Fetching -/

/-- What keeps a step from ending in a value. -/
inductive Mishap (ε : Type) where
  /-- An error that the walk may meet. -/
  | error (error : ε)
  /-- A fault of the program. -/
  | fault (fault : Fault)
  deriving DecidableEq

/-- A decoded document and how long its request took. -/
structure Fetched (α : Type) where
  value : α
  elapsed : Duration
  deriving DecidableEq

/-- What a client makes of an answer.  Decoding takes no time. -/
def Answer.decoded
    (decode : List UInt8 → Except DecodeError α)
    (url : Url)
    (answer : Answer) : Except (Mishap FetchError) (Fetched α) :=
  match answer.reply with
  | .body bytes =>
      match decode bytes with
      | .ok value => .ok ⟨value, answer.elapsed⟩
      | .error error => .error (.error (.decode url error))
  | .status code => .error (.error (.status url code))
  | .unreachable text => .error (.error (.transport url text))
  | .broken text => .error (.fault (.brokenRequest text))

/-- Fetch a document. -/
def fetch
    (decode : List UInt8 → Except DecodeError α)
    (url : Url) : Activity Note (Except (Mishap FetchError) (Fetched α)) :=
  .request url fun answer => .finish (answer.decoded decode url)

/-! ## Steps -/

/-- A step of a walker.  The words it draws and the choices it makes stay with the
walker also when the step fails. -/
abbrev WalkStep (α : Type) :=
  ExceptT (Mishap WalkError) (StateT Walker (Activity WalkNote)) α

namespace WalkStep

/-- Do something that concerns no walker. -/
def act (activity : Activity WalkNote α) : WalkStep α :=
  ExceptT.lift (StateT.lift activity)

/-- Note something. -/
def tell (note : WalkNote) : WalkStep Unit := act (.tell note)

/-- Give up with an error. -/
def fail (error : WalkError) : WalkStep α := throw (.error error)

/-- Stop at a fault. -/
def orFault : Except Fault α → WalkStep α
  | .ok value => pure value
  | .error fault => throw (.fault fault)

/-- Draw from the words of the walker. -/
def draw (draw : Draw α) : WalkStep α := do
  let walker ← get
  let (result, generator) := draw.from? walker.generator
  set { walker with generator }
  orFault result

/-- Remember a choice. -/
def remember (selection : Selection) : WalkStep Unit :=
  modify fun walker => { walker with selections := walker.selections ++ [selection] }

/-- Turn an error into a value; a fault stays what it is. -/
def attempt (step : WalkStep α) : WalkStep (Except WalkError α) := ExceptT.mk do
  match ← step.run with
  | .ok value => return .ok (.ok value)
  | .error (.error error) => return .ok (.error error)
  | .error (.fault fault) => return .error (.fault fault)

/-- Resolve a link against the base URL. -/
def resolve (itinerary : Itinerary) (kind : ResourceKind) (href : String) : WalkStep Url :=
  match itinerary.baseUrl.join href with
  | .ok url => pure url
  | .error error => fail (.invalidHref kind href error)

/-- Fetch a document of some kind. -/
def fetched (kind : ResourceKind) (url : Url) (α : Type) [Document α] : WalkStep (Fetched α) := do
  match ← act (fetch (Document.decode α) url) with
  | .ok fetched => return fetched
  | .error (.error error) => fail (.fetch kind error)
  | .error (.fault fault) => throw (.fault fault)

/-- Note a request and fetch a document. -/
def document (kind : ResourceKind) (url : Url) (α : Type) [Document α] : WalkStep α := do
  tell (.fetching (← get).id kind url)
  return (← fetched kind url α).value

/-- Choose one of several resources that a URL lists. -/
def choose (kind : ResourceKind) (resources : List α) (url : Url) : WalkStep α := do
  if resources.isEmpty then fail (.empty kind url)
  let index ← draw (Draw.index resources.length)
  remember ⟨kind, index⟩
  orFault (Draw.element resources index)

end WalkStep

/-- Choose a service map with stops.  A random map is tried first; if it has none,
the first map with stops is taken.  There may be no such map. -/
def Route.selectServiceMap (route : Route) : Draw (Option Nat) := do
  if route.serviceMaps.isEmpty then return none
  let index ← Draw.index route.serviceMaps.length
  let serviceMap ← Draw.element route.serviceMaps index
  if serviceMap.stops.isEmpty then
    return route.serviceMaps.findIdx? fun serviceMap => !serviceMap.stops.isEmpty
  return some index

namespace WalkStep

/-- From the start: fetch the root, its systems, and one of them. -/
def fromStart (itinerary : Itinerary) : WalkStep WalkState := do
  let root ← document .root itinerary.baseUrl Root
  let systemsUrl ← resolve itinerary .system root.systems.href
  let systems ← document .system systemsUrl (List SystemSummary)
  let summary ← choose .system systems systemsUrl
  let systemUrl ← resolve itinerary .system summary.href
  return .system (← document .system systemUrl System)

/-- From a system: fetch its routes, and one of them. -/
def fromSystem (itinerary : Itinerary) (system : System) : WalkStep WalkState := do
  let routesUrl ← resolve itinerary .route system.routes.href
  let routes ← document .route routesUrl (List RouteSummary)
  let summary ← choose .route routes routesUrl
  let routeUrl ← resolve itinerary .route summary.href
  return .route (← document .route routeUrl Route)

/-- Fetch a stop.  A link that cannot be resolved is a failed request as well. -/
def fetchStop (itinerary : Itinerary) (href : String) : WalkStep (Fetched Stop) := do
  let url ← resolve itinerary .stop href
  fetched .stop url Stop

/-- From a route: fetch one of the stops of one of its service maps.  A walk whose
route has no stops is over. -/
def fromRoute (itinerary : Itinerary) (route : Route) : WalkStep WalkState := do
  match ← draw route.selectServiceMap with
  | none => do
      tell (.noStops (← get).id)
      return .atEnd
  | some map => do
      let serviceMap ← orFault (Draw.element route.serviceMaps map)
      let index ← draw (Draw.index serviceMap.stops.length)
      remember ⟨.stop, index⟩
      let summary ← orFault (Draw.element serviceMap.stops index)
      match ← attempt (fetchStop itinerary summary.href) with
      | .ok fetched => do
          tell (.sample .stop fetched.elapsed)
          return .stop fetched.value
      | .error error => do
          tell .failure
          fail error

/-- One step from a state to the next one. -/
def transition (itinerary : Itinerary) : WalkState → WalkStep WalkState
  | .start => fromStart itinerary
  | .system system => fromSystem itinerary system
  | .route route => fromRoute itinerary route
  | .stop _ => return .atEnd
  | .atEnd => do throw (.fault (.pastTheEnd (← get).id))

/-- The longest walk: to a system, to a route, to a stop, and to the end. -/
def longestWalk : Nat := 4

/-- Walk on from a state for at most so many steps, pausing between them. -/
def walkOn (itinerary : Itinerary) : Nat → WalkState → WalkStep Ending
  | 0, _ => return .completed
  | steps + 1, state => do
      match ← attempt (transition itinerary state) with
      | .error error => do
          tell (.stopped (← get).id state.name error)
          return .aborted error
      | .ok next => do
          tell (.moved (← get).id state.name next.name)
          if next.isEnd then return .completed
          let pause ← draw itinerary.pause.sample
          act (.rest pause)
          walkOn itinerary steps next

end WalkStep

namespace Walker

/-- A step of a walker as an activity. -/
def perform
    (walker : Walker)
    (step : WalkStep α) : Activity WalkNote (Except (Mishap WalkError) α × Walker) :=
  step.run.run walker

/-- A whole walk.  It ends in an outcome or in a fault. -/
def walk (itinerary : Itinerary) (walker : Walker) : Activity WalkNote (Except Fault WalkOutcome) :=
  do
    match ← walker.perform (WalkStep.walkOn itinerary WalkStep.longestWalk .start) with
    | (.ok ending, walker) => return .ok ⟨walker.id, walker.selections, ending⟩
    | (.error (.error error), walker) =>
        return .ok ⟨walker.id, walker.selections, .aborted error⟩
    | (.error (.fault fault), _) => return .error fault

end Walker
end TransitLoad
