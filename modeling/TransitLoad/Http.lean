import TransitLoad.Http.Address

/-!
# HTTP

A client that asks a server for a URL and follows its redirects.  A server is what it
does with one connection after another, and every request opens a new one; when the
server has nothing left to do, it refuses connections.

Whatever goes wrong after a redirect is said of the URL that was asked for first,
apart from a redirect that leads nowhere.
-/

namespace TransitLoad
namespace Http

/-- A response of a server. -/
structure Response where
  status : Nat
  location : Option String
  body : List UInt8
  /-- How many bytes of the body are announced and not sent. -/
  missing : Nat
  deriving DecidableEq

/-- What a server does with a connection. -/
inductive Service where
  | respond (response : Response)
  /-- It reads the request and closes the connection. -/
  | hangUp
  deriving DecidableEq

/-- Why there is no response. -/
inductive Failure where
  /-- The scheme is not one of HTTP, or the URL is no address. -/
  | unusableUrl (url : Url)
  /-- The connection was refused or closed early. -/
  | noResponse (url : Url)
  /-- A redirect follows too many others. -/
  | tooManyRedirects (url : Url)
  /-- The body is shorter than announced. -/
  | shortBody
  deriving DecidableEq

/-- The text that a failure shows. -/
def Failure.message : Failure → String
  | .unusableUrl url => s!"builder error for url ({url.text})"
  | .noResponse url => s!"error sending request for url ({url.text})"
  | .tooManyRedirects url => s!"error following redirect for url ({url.text})"
  | .shortBody => "error decoding response body"

/-- Whether the scheme of a URL is one of HTTP. -/
def hasUsableScheme (url : Url) : Bool := url.scheme = "http" ∨ url.scheme = "https"

/-- Whether a URL can be asked for. -/
def isUsable (url : Url) : Bool := hasUsableScheme url && isAddress url

/-- The text of percent-encoded characters, if it is one. -/
def decoded? (text : String) : Option String :=
  Json.textOfUtf8? (Url.decodeBytes (Json.utf8 text))

/-- A URL without the credentials, which are sent apart from it.  Credentials that
stand for no text stay. -/
def withoutCredentials (url : Url) : Url :=
  match url.authority with
  | none => url
  | some authority =>
      match decoded? authority.userName, authority.password.bind decoded? with
      | none, _ => url
      | some "", none => url
      | some _, _ =>
          { url with authority := some { authority with userName := "", password := none } }

/-- The first line of a request. -/
def requestLine (url : Url) : String :=
  let query := match url.query with
    | some query => "?" ++ query
    | none => ""
  s!"GET {url.path}{query} HTTP/1.1"

/-! ## Responses -/

namespace Response

/-- Whether the exchange is over with this response. -/
def isFinal (response : Response) : Bool :=
  response.status = 101 ∨ (200 ≤ response.status ∧ response.status < 1000)

/-- Whether the request succeeded. -/
def isSuccess (response : Response) : Bool :=
  200 ≤ response.status ∧ response.status < 300

/-- Whether the status rules out a body. -/
def isBodiless (response : Response) : Bool :=
  response.status = 204 ∨ response.status = 304

/-- Where a redirect leads from a URL.  A location that is no address leads nowhere. -/
def redirect? (response : Response) (url : Url) : Option Url :=
  if response.status ∈ [301, 302, 303, 307, 308] then
    match response.location with
    | none => none
    | some location =>
        (url.join location).toOption.bind address?
  else none

/-- What the response comes to when no redirect is followed. -/
def reply (response : Response) : Except Failure Reply :=
  if !response.isSuccess then .ok (.status response.status)
  else if response.isBodiless then .ok (.body [])
  else if response.missing = 0 then .ok (.body response.body)
  else .error .shortBody

end Response

/-! ## Requests -/

/-- The most redirects that are followed. -/
def redirectLimit : Nat := 10

/-- What a request came to, and the first lines of the requests that were sent. -/
structure Visit where
  result : Except Failure Reply
  requestLines : List String

/-- Ask a server for a URL after so many redirects. -/
def follow (asked : Url) : List Service → Nat → Url → Visit
  | [], _, _ => ⟨.error (.noResponse asked), []⟩
  | service :: services, redirects, url =>
      let line := requestLine url
      match service with
      | .hangUp => ⟨.error (.noResponse asked), [line]⟩
      | .respond response =>
          if !response.isFinal then ⟨.error (.noResponse asked), [line]⟩
          else
            match response.redirect? url with
            | none => ⟨response.reply, [line]⟩
            | some target =>
                if redirectLimit ≤ redirects then
                  ⟨.error (.tooManyRedirects { url with fragment := none }), [line]⟩
                else if !hasUsableScheme target then ⟨.error (.unusableUrl target), [line]⟩
                else
                  let visit := follow asked services (redirects + 1) target
                  { visit with requestLines := line :: visit.requestLines }

/-- Ask a server for a URL. -/
def visit (server : List Service) (url : Url) : Visit :=
  let asked := withoutCredentials url
  if isUsable asked then follow asked server 0 asked
  else ⟨.error (.unusableUrl asked), []⟩

/-- What a client makes of a request. -/
def Visit.reply (visit : Visit) : Reply :=
  match visit.result with
  | .ok reply => reply
  | .error failure => .unreachable failure.message

/-- The API behind servers that refuse every connection, at once. -/
def unreachableApi : Api := fun _ url => ⟨.zero, (visit [] url).reply⟩

end Http
end TransitLoad
