import TransitLoad.Decoding.Error
import TransitLoad.Duration
import TransitLoad.Fault
import TransitLoad.Url.Parse

/-!
# The API under test

A request is answered after some latency: with a body, with a status that means
failure, with a reason why the API could not be reached, or with a fault.  An API
may answer the same URL differently from one request to the next.
-/

namespace TransitLoad

/-- What a request comes to. -/
inductive Reply where
  /-- A response that succeeds, with its body. -/
  | body (bytes : List UInt8)
  /-- A response that fails, with its status. -/
  | status (code : Nat)
  /-- No response at all, and why. -/
  | unreachable (text : String)
  /-- The API broke down. -/
  | broken (text : String)
  deriving DecidableEq, Inhabited

/-- A reply and how long it takes. -/
structure Exchange where
  latency : Duration
  reply : Reply
  deriving DecidableEq, Inhabited

/-- How requests are answered, each by its place in the order of all requests and
by its URL. -/
abbrev Api := Nat → Url → Exchange

/-- Whether an API answers by the URL alone. -/
def Api.IsFixed (api : Api) : Prop :=
  ∀ place other url, api place url = api other url

/-! ## Errors -/

/-- Why a document could not be fetched. -/
inductive FetchError where
  | transport (url : Url) (text : String)
  | status (url : Url) (code : Nat)
  | decode (url : Url) (error : DecodeError)
  deriving DecidableEq

/-- The text that a fetch error shows. -/
def FetchError.message : FetchError → String
  | .transport url text => s!"request to {url.text} failed: {text}"
  | .status url code => s!"request to {url.text} returned status {code}"
  | .decode url error => s!"failed to decode response from {url.text}: {error.message}"

/-! ## Catalogues -/

/-- Known URLs with their exchanges, later entries first, and the latency of all
other URLs, which are not found. -/
structure Catalogue where
  entries : List (String × Exchange)
  otherLatency : Duration

namespace Catalogue

/-- A catalogue that knows no URL. -/
def empty (otherLatency : Duration) : Catalogue := ⟨[], otherLatency⟩

/-- The text that an entry is found under: the URL in its normal form. -/
def key (url : String) : String :=
  match Url.parse url with
  | .ok url => url.text
  | .error _ => url

/-- Add an entry, which replaces an earlier one for the same URL. -/
def add (catalogue : Catalogue) (url : String) (exchange : Exchange) : Catalogue :=
  { catalogue with entries := (key url, exchange) :: catalogue.entries }

/-- The API that answers from a catalogue. -/
def api (catalogue : Catalogue) : Api := fun _ url =>
  match catalogue.entries.lookup url.text with
  | some exchange => exchange
  | none => ⟨catalogue.otherLatency, .status 404⟩

end Catalogue
end TransitLoad
