import TransitLoad.Decoding.Shape

/-!
# Documents of a transit API

The responses that a walker follows: a root links to systems, a system to routes,
a route lists the stops of its service maps, a stop its coming trips.  Links that
are followed are required; whatever only describes has a default.
-/

namespace TransitLoad

/-- A type of documents: the shape of its bodies, and the document that a value of
the shape stands for. -/
class Document (α : Type) where
  shape : Shape
  ofValue : shape.Value → α

/-- Decode a body as a document. -/
def Document.decode (α : Type) [Document α] (body : List UInt8) : Except DecodeError α :=
  (Document.shape α).decode body |>.map Document.ofValue

namespace Fields

/-- A field that must be present. -/
def required (name : String) (shape : Shape) (rest : Fields := .nil) : Fields :=
  .cons name true shape rest

/-- A field that may be absent or `null`. -/
def optional (name : String) (shape : Shape) (rest : Fields := .nil) : Fields :=
  .cons name false shape rest

end Fields

/-! ## Records -/

/-- A link to a collection with its number of elements. -/
structure Link where
  count : UInt64
  href : String
  deriving DecidableEq

/-- A link gives its target and perhaps a count. -/
def Link.shape : Shape :=
  .record "Link" (.optional "count" .count (.required "href" .text))

instance : Document Link where
  shape := Link.shape
  ofValue := fun (count, href, ()) => ⟨count, href⟩

/-- Where a walk begins. -/
structure Root where
  systems : Link
  deriving DecidableEq

/-- A root links to its systems. -/
def Root.shape : Shape :=
  .record "Root" (.required "systems" Link.shape)

instance : Document Root where
  shape := Root.shape
  ofValue := fun (systems, ()) => ⟨Document.ofValue systems⟩

/-- A system in a list of systems. -/
structure SystemSummary where
  id : String
  name : String
  href : String
  deriving DecidableEq

/-- A system in a list gives its own address. -/
def SystemSummary.shape : Shape :=
  .record "SystemSummary"
    (.optional "id" .text (.optional "name" .text (.required "href" .text)))

instance : Document SystemSummary where
  shape := SystemSummary.shape
  ofValue := fun (id, name, href, ()) => ⟨id, name, href⟩

/-- A transit system. -/
structure System where
  routes : Link
  deriving DecidableEq

/-- A system links to its routes. -/
def System.shape : Shape :=
  .record "System" (.required "routes" Link.shape)

instance : Document System where
  shape := System.shape
  ofValue := fun (routes, ()) => ⟨Document.ofValue routes⟩

/-- A route in a list of routes. -/
structure RouteSummary where
  id : String
  href : String
  deriving DecidableEq

/-- A route in a list gives its own address. -/
def RouteSummary.shape : Shape :=
  .record "RouteSummary" (.optional "id" .text (.required "href" .text))

instance : Document RouteSummary where
  shape := RouteSummary.shape
  ofValue := fun (id, href, ()) => ⟨id, href⟩

/-- A stop on a service map. -/
structure StopSummary where
  id : String
  name : String
  href : String
  deriving DecidableEq

/-- A stop on a service map gives its own address. -/
def StopSummary.shape : Shape :=
  .record "StopSummary"
    (.optional "id" .text (.optional "name" .text (.required "href" .text)))

instance : Document StopSummary where
  shape := StopSummary.shape
  ofValue := fun (id, name, href, ()) => ⟨id, name, href⟩

/-- One pattern of stops that a route serves. -/
structure ServiceMap where
  groupId : String
  stops : List StopSummary
  deriving DecidableEq

/-- A service map lists its stops. -/
def ServiceMap.shape : Shape :=
  .record "ServiceMap"
    (.optional "group_id" .text (.optional "stops" (.list StopSummary.shape)))

instance : Document ServiceMap where
  shape := ServiceMap.shape
  ofValue := fun (groupId, stops, ()) => ⟨groupId, List.map Document.ofValue stops⟩

/-- A route of a system. -/
structure Route where
  serviceMaps : List ServiceMap
  deriving DecidableEq

/-- A route lists its service maps. -/
def Route.shape : Shape :=
  .record "Route" (.optional "service_maps" (.list ServiceMap.shape))

instance : Document Route where
  shape := Route.shape
  ofValue := fun (serviceMaps, ()) => ⟨List.map Document.ofValue serviceMaps⟩

/-- The trip that calls at a stop. -/
structure TripRef where
  id : String
  href : String
  deriving DecidableEq

/-- A trip may give its address. -/
def TripRef.shape : Shape :=
  .record "TripRef" (.optional "id" .text (.optional "href" .text))

instance : Document TripRef where
  shape := TripRef.shape
  ofValue := fun (id, href, ()) => ⟨id, href⟩

/-- A coming departure. -/
structure StopTime where
  trip : TripRef
  deriving DecidableEq

/-- A departure names its trip. -/
def StopTime.shape : Shape :=
  .record "StopTime" (.optional "trip" TripRef.shape)

instance : Document StopTime where
  shape := StopTime.shape
  ofValue := fun (trip, ()) => ⟨Document.ofValue trip⟩

/-- A stop. -/
structure Stop where
  id : String
  name : String
  stopTimes : List StopTime
  deriving DecidableEq

/-- A stop lists its departures. -/
def Stop.shape : Shape :=
  .record "Stop"
    (.optional "id" .text (.optional "name" .text
      (.optional "stop_times" (.list StopTime.shape))))

instance : Document Stop where
  shape := Stop.shape
  ofValue := fun (id, name, stopTimes, ()) => ⟨id, name, List.map Document.ofValue stopTimes⟩

/-- A list of documents is a document itself. -/
instance [Document α] : Document (List α) where
  shape := .list (Document.shape α)
  ofValue := fun values => List.map Document.ofValue values

end TransitLoad
