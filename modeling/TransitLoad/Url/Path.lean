import TransitLoad.Url.Percent

/-!
# Paths

A path is read one segment at a time, from separator to separator, onto the path
of the base.  A segment of one dot adds nothing and a segment of two dots takes the
last segment away.  In a URL of a file the first segment may be the letter of a
drive, which no dots take away and which excludes a host.

Tabs and line breaks inside a URL count for nothing, but in the path of a file one that
comes right after the letter of a drive closes it.
-/

namespace TransitLoad
namespace Url

/-- How the scheme of a URL determines the reading of the rest. -/
inductive SchemeClass where
  /-- `file`. -/
  | file
  /-- Schemes with a host: `http`, `https`, `ws`, `wss` and `ftp`. -/
  | special
  /-- All other schemes. -/
  | other
  deriving DecidableEq

/-- Whether backslashes separate like slashes. -/
def SchemeClass.isSpecial (schemeClass : SchemeClass) : Bool := schemeClass ≠ .other

/-- Whether a character separates the segments of a path. -/
def SchemeClass.isSeparator (schemeClass : SchemeClass) (c : Char) : Bool :=
  c == '/' || (c == '\\' && schemeClass.isSpecial)

/-! ## Symbols -/

/-- A character that counts, and whether a tab or a line break comes right after it. -/
structure Symbol where
  character : Char
  isBroken : Bool
  deriving DecidableEq

/-- Whether a character is a tab or a line break. -/
def isBreak (c : Char) : Bool := c == '\t' || c == '\n' || c == '\r'

/-- The characters that count. -/
def symbols : List Char → List Symbol
  | [] => []
  | c :: rest => if isBreak c then symbols rest else ⟨c, rest.head?.any isBreak⟩ :: symbols rest

/-- Characters without any breaks between them. -/
def unbroken (text : List Char) : List Symbol := text.map fun c => ⟨c, false⟩

/-- The characters of symbols. -/
def plain (text : List Symbol) : List Char := text.map Symbol.character

/-- The pieces of a text between its breaks. -/
def pieces : List Symbol → List (List Char)
  | [] => []
  | symbol :: rest =>
      if symbol.isBroken then [symbol.character] :: pieces rest
      else match pieces rest with
        | [] => [[symbol.character]]
        | piece :: others => (symbol.character :: piece) :: others

/-! ## Drive letters -/

/-- Whether characters start with a letter and a mark of a drive, with nothing or a
separator behind it. -/
def startsWithDrive : List Char → Bool
  | letter :: mark :: rest =>
      letter.isAlpha && (mark == ':' || mark == '|') &&
        match rest with
        | [] => true
        | next :: _ => ['/', '\\', '?', '#'].contains next
  | _ => false

/-- Whether a segment is the letter of a drive. -/
def isDrive : List Char → Bool
  | [letter, mark] => letter.isAlpha && (mark == ':' || mark == '|')
  | _ => false

/-- Whether a segment is the letter of a drive with a colon. -/
def isNormalDrive : List Char → Bool
  | [letter, mark] => letter.isAlpha && mark == ':'
  | _ => false

/-- Whether a path is the letter of a drive and nothing else. -/
def isDrivePath : List Char → Bool
  | '/' :: segment => isNormalDrive segment
  | _ => false

/-! ## Taking segments away -/

/-- Whether a path ends in a slash. -/
def endsInSlash (path : List Char) : Bool := path.getLast? == some '/'

/-- The last segment of a path and what comes before it, its slash included. -/
def splitLast (path : List Char) : List Char × List Char :=
  let segment := (path.reverse.takeWhile (· != '/')).reverse
  (path.take (path.length - segment.length), segment)

/-- Remove the last segment, but not its slash and not the letter of a drive. -/
def dropLastSegment (schemeClass : SchemeClass) (path : List Char) : List Char :=
  let (before, segment) := splitLast path
  if schemeClass == .file && isNormalDrive segment then path else before

/-- Whether the slash at the end of a path follows a segment that dots may remove:
it is not the first slash, and no drive comes before it. -/
def slashIsRemovable (path : List Char) : Bool :=
  let (before, segment) := splitLast path.dropLast
  !before.isEmpty && !startsWithDrive (segment ++ ['/'])

/-- Remove the last segment together with its slash, as two dots do. -/
def shorten (schemeClass : SchemeClass) (path : List Char) : List Char :=
  let path := if endsInSlash path && slashIsRemovable path then path.dropLast else path
  dropLastSegment schemeClass path

/-! ## Adding segments -/

/-- One dot, written as it is or encoded. -/
def isDot (segment : List Char) : Bool :=
  String.ofList (segment.map Char.toLower) ∈ [".", "%2e"]

/-- Two dots, each written as it is or encoded. -/
def isDoubleDot (segment : List Char) : Bool :=
  String.ofList (segment.map Char.toLower) ∈ ["..", "%2e%2e", "%2e.", ".%2e"]

/-- A path under construction, and whether the URL may have a host. -/
structure PathDraft where
  path : List Char
  allowsHost : Bool

/-- Add characters to a path.  The letter of a drive is closed by a slash first. -/
def appendPiece
    (schemeClass : SchemeClass)
    (path piece : List Char) : List Char :=
  let closing := if schemeClass == .file && isDrivePath path then ['/'] else []
  path ++ closing ++ encode pathSet piece

/-- Add a slash where there is none. -/
def withSlash (path : List Char) : List Char :=
  if endsInSlash path then path else path ++ ['/']

/-- Add a segment to a path, together with the slash that ends it, if one does. -/
def appendSegment
    (schemeClass : SchemeClass)
    (draft : PathDraft)
    (segment : List Symbol)
    (endsWithSlash : Bool) : PathDraft :=
  let closesDrive :=
    schemeClass == .file && isDrivePath draft.path && !segment.isEmpty
  let start := draft.path.length + (if closesDrive then 1 else 0)
  let extended := (pieces segment).foldl (appendPiece schemeClass) draft.path
  let added := extended.drop start
  let slash := if endsWithSlash then ['/'] else []
  if isDoubleDot added then
    let shortened := shorten schemeClass (extended.take start)
    { draft with path := if endsWithSlash then withSlash shortened else shortened }
  else if isDot added then
    { draft with path := withSlash (extended.take start) }
  else if schemeClass == .file && start == 1 && isDrive added then
    ⟨extended.take (start + 1) ++ [':'] ++ slash, false⟩
  else { draft with path := extended ++ slash }

/-- Add segments to a path, all but the last ending with a slash. -/
def appendSegments
    (schemeClass : SchemeClass)
    (draft : PathDraft) : List (List Symbol) → PathDraft
  | [] => draft
  | [segment] => appendSegment schemeClass draft segment false
  | segment :: rest =>
      appendSegments schemeClass (appendSegment schemeClass draft segment true) rest

/-- Split a text at the separators of paths. -/
def splitSegments (schemeClass : SchemeClass) (text : List Symbol) : List (List Symbol) :=
  text.foldr
    (fun symbol segments =>
      if schemeClass.isSeparator symbol.character then [] :: segments
      else match segments with
        | [] => [[symbol]]
        | segment :: segments => (symbol :: segment) :: segments)
    [[]]

/-- Read a path onto what there is of it already.  A file has exactly one slash at
the front. -/
def readPath
    (schemeClass : SchemeClass)
    (draft : PathDraft)
    (text : List Symbol) : PathDraft :=
  let draft := appendSegments schemeClass draft (splitSegments schemeClass text)
  if schemeClass == .file then
    { draft with path := '/' :: draft.path.dropWhile (· == '/') }
  else draft

end Url
end TransitLoad
