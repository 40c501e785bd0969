import TransitLoad.Api

/-!
# Addresses of requests

Not every URL is the address of a request.  An address has an authority, or it is
nothing but one; a port comes after at most one colon, brackets are in pairs, only user
names and addresses in brackets hold percent-encoded characters, and some characters
that a URL leaves alone may not stand in an authority at all.
-/

namespace TransitLoad
namespace Http

/-- Whether a character may stand in an authority, percent signs apart. -/
def isAuthorityCharacter (c : Char) : Bool :=
  c.isAlphanum || ['!', '$', '&', '\x27', '(', ')', '*', '+', ',', '-', '.', ':', ';', '=', '@',
    '[', ']', '_', '~'].contains c

/-- What was seen of an authority so far. -/
structure AuthorityScan where
  /-- Colons since the last user name or address in brackets. -/
  colons : Nat
  isOpen : Bool
  isClosed : Bool
  /-- Whether a percent sign came since then. -/
  isEncoded : Bool
  endsUser : Bool
  deriving DecidableEq

namespace AuthorityScan

/-- Nothing was seen. -/
def start : AuthorityScan := ⟨0, false, false, false, false⟩

/-- The most colons that are counted; an address in brackets has no more. -/
def mostColons : Nat := 8

/-- See one more character. -/
def read? (scan : AuthorityScan) (c : Char) : Option AuthorityScan :=
  let scan := { scan with endsUser := c == '@' }
  if c = '%' then some { scan with isEncoded := true }
  else if !isAuthorityCharacter c then none
  else if c = ':' then
    if scan.colons < mostColons then some { scan with colons := scan.colons + 1 } else none
  else if c = '[' then
    if scan.isEncoded || scan.isOpen then none else some { scan with isOpen := true }
  else if c = ']' then
    if !scan.isOpen || scan.isClosed then none
    else some { scan with isClosed := true, colons := 0, isEncoded := false }
  else if c = '@' then some { scan with colons := 0, isEncoded := false }
  else some scan

/-- Whether an authority may end here. -/
def isComplete (scan : AuthorityScan) : Bool :=
  scan.isOpen == scan.isClosed && scan.colons ≤ 1 && !scan.endsUser && !scan.isEncoded

end AuthorityScan

/-- Whether a text is an authority, and not empty. -/
def isAuthority (text : String) : Bool :=
  text ≠ "" && (text.toList.foldlM AuthorityScan.read? .start).any AuthorityScan.isComplete

/-- The longest address. -/
def longestAddress : Nat := 65534

/-- The longest scheme of an address. -/
def longestScheme : Nat := 64

/-- Whether a URL is the address of a request. -/
def isAddress (url : Url) : Bool :=
  url.text.length ≤ longestAddress &&
    match url.authority with
    | some authority => url.scheme.length ≤ longestScheme && isAuthority authority.text
    | none => !(url.text.toList.any ['/', '?', '#'].contains) && isAuthority url.text

/-- A URL as the address of a request: it has no fragment, and a path unless it is
nothing but an authority. -/
def address? (url : Url) : Option Url :=
  if isAddress url then
    let path := if url.authority.isSome && url.path = "" then "/" else url.path
    some { url with path, fragment := none }
  else none

end Http
end TransitLoad
