import TransitLoad.Url.Host
import TransitLoad.Url.Path

/-!
# URLs

A URL as its components, each already in its normal form, and the text that they
are written as.
-/

namespace TransitLoad

/-- Who serves a URL: credentials, a host and a port other than the usual one. -/
structure Authority where
  userName : String
  password : Option String
  host : Host
  port : Option Nat
  deriving DecidableEq, Inhabited

/-- A URL.  The path of a URL without authority may be opaque; any other path is
empty or starts with a slash. -/
structure Url where
  scheme : String
  authority : Option Authority
  path : String
  query : Option String
  fragment : Option String
  deriving DecidableEq, Inhabited

namespace Authority

/-- An authority without a host. -/
def empty : Authority := ⟨"", none, .none, none⟩

/-- The credentials in front of a host. -/
def credentialsText (authority : Authority) : String :=
  match authority.password with
  | some password => authority.userName ++ ":" ++ password ++ "@"
  | none => if authority.userName.isEmpty then "" else authority.userName ++ "@"

/-- An authority as it is written. -/
def text (authority : Authority) : String :=
  authority.credentialsText ++ authority.host.text ++
    match authority.port with
    | some port => ":" ++ toString port
    | none => ""

end Authority

namespace Url

/-- How the scheme determines the reading of the rest. -/
def schemeClass (scheme : String) : SchemeClass :=
  if scheme = "file" then .file
  else if scheme ∈ ["http", "https", "ws", "wss", "ftp"] then .special
  else .other

/-- The port that a scheme uses when none is given. -/
def usualPort? (scheme : String) : Option Nat :=
  if scheme = "http" ∨ scheme = "ws" then some 80
  else if scheme = "https" ∨ scheme = "wss" then some 443
  else if scheme = "ftp" then some 21
  else none

/-- Whether the path has no structure, so that no relative reference can be
resolved against it. -/
def isOpaque (url : Url) : Bool :=
  url.authority.isNone && url.path.toList.head? != some '/'

/-- What comes between the scheme and the path.  Two dots of slack keep a path that
starts with two slashes from looking like an authority. -/
def authorityText (url : Url) : String :=
  match url.authority with
  | some authority => "//" ++ authority.text
  | none => if url.path.startsWith "//" then "/." else ""

/-- A URL without its query and fragment. -/
def hierarchyText (url : Url) : String :=
  url.scheme ++ ":" ++ url.authorityText ++ url.path

/-- A URL as it is written. -/
def text (url : Url) : String :=
  url.hierarchyText ++
    (match url.query with
      | some query => "?" ++ query
      | none => "") ++
    match url.fragment with
    | some fragment => "#" ++ fragment
    | none => ""

end Url
end TransitLoad
