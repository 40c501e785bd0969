import TransitLoad.Url.Basic

/-!
# Reading URLs

A text is read as a URL, either on its own or as a reference that is resolved
against a base.  Control characters and blanks around it, and tabs and line breaks
inside it, count for nothing.
-/

namespace TransitLoad
namespace Url

/-! ## Splitting -/

/-- Drop the control characters and blanks around a text. -/
def withoutMargins (text : String) : List Char :=
  let isMargin (c : Char) := c.toNat ≤ 0x20
  ((text.toList.dropWhile isMargin).reverse.dropWhile isMargin).reverse

/-- Whether a character may stand in a scheme. -/
def isSchemeCharacter (c : Char) : Bool :=
  c.isAlphanum || c == '+' || c == '-' || c == '.'

/-- Split off a scheme, in lower case, and its colon. -/
def splitScheme? (input : List Char) : Option (String × List Char) :=
  if !(input.head?.any Char.isAlpha) then none
  else
    match input.dropWhile isSchemeCharacter with
    | ':' :: rest =>
        some (String.ofList ((input.takeWhile isSchemeCharacter).map Char.toLower), rest)
    | _ => none

/-- Whether a character ends a path. -/
def endsPath (c : Char) : Bool := c == '?' || c == '#'

/-- Split before the query or the fragment, whichever comes first. -/
def splitPath (input : List Char) : List Char × List Char :=
  (input.takeWhile (!endsPath ·), input.dropWhile (!endsPath ·))

/-- Whether a character is a slash of either kind. -/
def isSlash (c : Char) : Bool := c == '/' || c == '\\'

/-- Read what follows a path: a query, a fragment, both or neither. -/
def withQueryAndFragment (url : Url) (input : List Char) : Url :=
  let set := if (schemeClass url.scheme).isSpecial then specialQuerySet else querySet
  let query? : Option String := match input with
    | '?' :: rest => some (String.ofList (encode set (rest.takeWhile (· != '#'))))
    | _ => none
  let fragment? : Option String := match input.dropWhile (· != '#') with
    | '#' :: rest => some (String.ofList (encode fragmentSet rest))
    | _ => none
  { url with query := query?, fragment := fragment? }

/-! ## Authorities -/

/-- Split at the last `@`. -/
def splitCredentials? (text : List Char) : Option (List Char × List Char) :=
  match text.reverse.dropWhile (· != '@') with
  | [] => none
  | _ :: reversed => some (reversed.reverse, (text.reverse.takeWhile (· != '@')).reverse)

/-- Read a user name and, after the first colon, a password; an empty password
counts for nothing. -/
def readCredentials (text : List Char) : String × Option String :=
  let password := (text.dropWhile (· != ':')).drop 1
  (String.ofList (encode userSet (text.takeWhile (· != ':'))),
    if password.isEmpty then none else some (String.ofList (encode userSet password)))

/-- Split a host from what follows it: a colon outside brackets and a port. -/
def splitHost (isBracketed : Bool) : List Char → List Char × List Char
  | [] => ([], [])
  | c :: rest =>
      if c == ':' && !isBracketed then ([], c :: rest)
      else
        let isBracketed := if c == '[' then true else if c == ']' then false else isBracketed
        let (host, rest) := splitHost isBracketed rest
        (c :: host, rest)

/-- Read a port below `2 ^ 16`; none at all and the usual one are left out. -/
def readPort? (usual : Option Nat) (digits : List Char) : Except UrlError (Option Nat) :=
  if digits.isEmpty then .ok none
  else
    match Host.number? 10 digits with
    | none => .error .invalidPort
    | some port =>
        if UInt16.size ≤ port then .error .invalidPort
        else if some port = usual then .ok none
        else .ok (some port)

/-- Read the authority of a URL that is not a file.  A colon or credentials without
a host are refused under every scheme, the lack of a host under special ones.  What is
left over comes after a port: under every scheme a port ends before a backslash. -/
def readAuthority
    (scheme : String)
    (text : List Char) : Except UrlError (Authority × List Char) := do
  let isSpecial := (schemeClass scheme).isSpecial
  let (credentials, text) ← match splitCredentials? text with
    | none => .ok ([], text)
    | some ([], []) => .ok ([], [])
    | some split => .ok split
  let (userName, password) := readCredentials credentials
  let (hostText, portText) := splitHost false text
  if isSpecial && hostText.isEmpty then throw .emptyHost
  let host ← if isSpecial then Host.parse hostText else Host.parseOpaque hostText
  if host.isNone && !portText.isEmpty then throw .emptyHost
  let isInPort (c : Char) := c != '\\'
  let port ← readPort? (usualPort? scheme) ((portText.drop 1).takeWhile isInPort)
  let authority : Authority := ⟨userName, password, host, port⟩
  if host.isNone && !authority.credentialsText.isEmpty then throw .emptyHost
  return (authority, (portText.drop 1).dropWhile isInPort)

/-- Read the path that follows an authority.  Under a special scheme it has at least
one slash. -/
def readPathAfterAuthority (schemeClass : SchemeClass) (text : List Char) : List Char :=
  let read (path : List Char) (text : List Char) :=
    (readPath schemeClass ⟨path, true⟩ (unbroken text)).path
  match text with
  | [] => if schemeClass.isSpecial then read ['/'] [] else []
  | c :: rest =>
      if schemeClass.isSpecial then read ['/'] (if isSlash c then rest else c :: rest)
      else if c == '/' then read [] (c :: rest)
      else read ['/'] (c :: rest)

/-- Read what follows the two slashes after a scheme. -/
def readAfterSlashes (scheme : String) (input : List Char) : Except UrlError Url := do
  let kind := schemeClass scheme
  let endsAuthority (c : Char) := kind.isSeparator c || endsPath c
  let text := input.takeWhile (!endsAuthority ·)
  let rest := input.dropWhile (!endsAuthority ·)
  if text = ['@'] && !rest.isEmpty then throw .emptyHost
  let (authority, left) ← readAuthority scheme text
  let (pathText, rest) := splitPath (left ++ rest)
  let path := readPathAfterAuthority kind pathText
  return withQueryAndFragment ⟨scheme, some authority, String.ofList path, none, none⟩ rest

/-! ## Files -/

/-- A URL of a file with a host and a path. -/
def fileUrl (host : Host) (path : List Char) (rest : List Symbol) : Url :=
  withQueryAndFragment
    ⟨"file", some { Authority.empty with host }, String.ofList path, none, none⟩ (plain rest)

/-- Split before the query or the fragment of a file, whichever comes first. -/
def splitFilePath (input : List Symbol) : List Symbol × List Symbol :=
  (input.takeWhile (!endsPath ·.character), input.dropWhile (!endsPath ·.character))

/-- Read the host of a file; the local one counts for none.  The letter of a drive
is no host but belongs to the path. -/
def readFileHost (input : List Symbol) : Except UrlError (Host × List Symbol) := do
  let ends (symbol : Symbol) := isSlash symbol.character || endsPath symbol.character
  let text := plain (input.takeWhile (!ends ·))
  if isDrive text then return (.none, input)
  let rest := input.dropWhile (!ends ·)
  if text.isEmpty then return (.none, rest)
  let host ← Host.parse text
  return (if host = .name "localhost" then .none else host, rest)

/-- Read what follows the two slashes of a file.  Without a host the path is read after
a slash of its own, so that a drive is told only where no other slash comes first. -/
def readFileAfterSlashes (input : List Symbol) : Except UrlError Url := do
  let (host, input) ← readFileHost input
  let (pathText, rest) := splitFilePath input
  let text := match pathText with
    | symbol :: after => if !host.isNone && isSlash symbol.character then after else pathText
    | [] => []
  let draft := readPath .file ⟨['/'], !host.isNone⟩ text
  return fileUrl (if draft.allowsHost then host else .none) draft.path rest

/-- The host and the drive that a file takes over from its base. -/
def inheritedFilePlace (base? : Option Url) (input : List Char) : Host × List Char :=
  match base? with
  | none => (.none, [])
  | some base =>
      if startsWithDrive input then (.none, [])
      else
        let first := (base.path.toList.drop 1).takeWhile (· != '/')
        if isNormalDrive first then (.none, '/' :: first)
        else ((base.authority.map Authority.host).getD .none, [])

/-- Replace the fragment of a base. -/
def withFragment (base : Url) (input : List Char) : Url :=
  { base with fragment := some (String.ofList (encode fragmentSet input)) }

/-- Read a file, perhaps relative to another one. -/
def readFile (base? : Option Url) (input : List Symbol) : Except UrlError Url :=
  match input with
  | first :: second :: after =>
      if isSlash first.character && isSlash second.character then readFileAfterSlashes after
      else if isSlash first.character then readRooted first (second :: after)
      else readRelative (first :: second :: after)
  | [first] => if isSlash first.character then readRooted first [] else readRelative [first]
  | [] => readRelative []
where
  /-- Read a path that starts with one slash. -/
  readRooted (slash : Symbol) (afterSlash : List Symbol) : Except UrlError Url :=
    let (host, path) := inheritedFilePlace base? (plain afterSlash)
    let (pathText, rest) := splitFilePath (slash :: afterSlash)
    .ok (fileUrl host (readPath .file ⟨path, false⟩ pathText).path rest)
  /-- Read a path that starts with no slash. -/
  readRelative (input : List Symbol) : Except UrlError Url :=
    let (pathText, rest) := splitFilePath input
    match base? with
    | none => .ok (fileUrl .none (readPath .file ⟨['/'], false⟩ pathText).path rest)
    | some base =>
        match plain input with
        | [] => .ok { base with fragment := none }
        | '?' :: _ => .ok (withQueryAndFragment base (plain input))
        | '#' :: after => .ok (withFragment base after)
        | characters =>
            if startsWithDrive characters then
              .ok (fileUrl .none (readPath .file ⟨['/'], false⟩ pathText).path rest)
            else
              let path := dropLastSegment .file base.path.toList
              let path := (readPath .file ⟨path, true⟩ pathText).path
              .ok (withQueryAndFragment { base with path := String.ofList path } (plain rest))

/-! ## References -/

/-- Read a reference without a scheme against a base that is not a file. -/
def readReference (base : Url) (input : List Char) : Except UrlError Url :=
  let kind := schemeClass base.scheme
  let extend (path : List Char) (input : List Char) : Url :=
    let (pathText, rest) := splitPath input
    let path := (readPath kind ⟨path, true⟩ (unbroken pathText)).path
    withQueryAndFragment { base with path := String.ofList path } rest
  match input with
  | [] => .ok { base with fragment := none }
  | '?' :: _ => .ok (withQueryAndFragment base input)
  | '#' :: after => .ok (withFragment base after)
  | '/' :: '/' :: after => readAfterSlashes base.scheme after
  | first :: after =>
      if isSlash first then
        if after.head?.any isSlash then readAfterSlashes base.scheme (input.dropWhile isSlash)
        else .ok (extend ['/'] after)
      else
        let path := dropLastSegment kind base.path.toList
        .ok (extend (if path.isEmpty then ['/'] else path) input)

/-- Read what follows a scheme that is neither special nor a file. -/
def readOther (scheme : String) (input : List Char) : Except UrlError Url :=
  match input with
  | '/' :: '/' :: after => readAfterSlashes scheme after
  | '/' :: after =>
      let (pathText, rest) := splitPath after
      let path := (readPath .other ⟨['/'], false⟩ (unbroken pathText)).path
      .ok (withQueryAndFragment ⟨scheme, none, String.ofList path, none, none⟩ rest)
  | _ =>
      let (pathText, rest) := splitPath input
      let path := encode controlSet pathText
      .ok (withQueryAndFragment ⟨scheme, none, String.ofList path, none, none⟩ rest)

/-- Read a URL, resolving a reference against the base if there is one.  A special
scheme that is the one of the base may be followed by a reference. -/
def read (base? : Option Url) (text : String) : Except UrlError Url :=
  let text := symbols (withoutMargins text)
  let input := plain text
  match splitScheme? input with
  | some (scheme, rest) =>
      match schemeClass scheme with
      | .file =>
          readFile (base?.filter (·.scheme = "file")) (text.drop (input.length - rest.length))
      | .other => readOther scheme rest
      | .special =>
          match base?.filter (·.scheme = scheme) with
          | some base =>
              if (rest.takeWhile isSlash).length < 2 then readReference base rest
              else readAfterSlashes scheme (rest.dropWhile isSlash)
          | none => readAfterSlashes scheme (rest.dropWhile isSlash)
  | none =>
      match base? with
      | none => .error .relativeWithoutBase
      | some base =>
          match input with
          | '#' :: after => .ok (withFragment base after)
          | _ =>
              if base.isOpaque then .error .relativeToOpaqueBase
              else if base.scheme = "file" then readFile (some base) text
              else readReference base input

/-- Read a URL on its own. -/
def parse (text : String) : Except UrlError Url := read none text

/-- Resolve a reference against a base. -/
def join (base : Url) (reference : String) : Except UrlError Url := read (some base) reference

end Url
end TransitLoad
