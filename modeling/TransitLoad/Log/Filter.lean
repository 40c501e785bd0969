import TransitLoad.Log
import TransitLoad.Log.Pattern
import TransitLoad.Settings.Flag
import TransitLoad.Text.CharacterSets

/-!
# Log filters

Which lines of the log are shown.  A filter is a list of directives between commas.  A
directive is a level, a target, or a target with a level after an equals sign; a span
between brackets may stand after the target, or instead of it, and name a field between
braces.

Lines are written outside all spans and have one field, their message.  So of the
directives with brackets only those are of use that name no span and no field but the
message, and no value for it.  Of the directives whose target a line's target starts
with, one with the longest target counts, before all one that names the message, and of
equal ones the last.
-/

namespace TransitLoad

/-- What is shown of some target: all lines up to a level, or none. -/
structure LogDirective where
  target : Option String
  /-- The field that a line must have. -/
  field : Option String
  level : Option Level
  deriving DecidableEq

/-- A filter. -/
structure LogFilter where
  directives : List LogDirective
  deriving DecidableEq

/-- The level of a name, or of a number from zero for none to five; `none` is no
level. -/
def levelOf? (name : String) : Option (Option Level) :=
  match readNumber name with
  | .ok 0 => some none
  | .ok 1 => some (some .error)
  | .ok 2 => some (some .warning)
  | .ok 3 => some (some .info)
  | .ok 4 => some (some .debug)
  | .ok 5 => some (some .trace)
  | _ =>
      match String.ofList (name.toList.map Char.toLower) with
      | "off" => some none
      | "error" => some (some .error)
      | "warn" => some (some .warning)
      | "info" => some (some .info)
      | "debug" => some (some .debug)
      | "trace" => some (some .trace)
      | _ => none

/-! ## Reading directives -/

/-- A field that a span names, and whether a value is asked of it. -/
structure SpanField where
  name : String
  hasValue : Bool
  deriving DecidableEq

/-- A directive as it is written. -/
structure WrittenDirective where
  target : Option String
  /-- The name of a span; there may be brackets without one. -/
  span : Option String
  field : Option SpanField
  level : Option Level
  deriving DecidableEq

namespace WrittenDirective

/-- Whether a target or a level may start with a character. -/
def isFirstCharacter (c : Char) : Bool :=
  c.isAlphanum || c == '-' || c == ':' || c == '_' || Text.alphanumeric.contains c

/-- Whether a character is white space. -/
def isWhiteSpace (c : Char) : Bool :=
  let number := c.toNat
  (0x09 ≤ number && number ≤ 0x0d) || number == 0x20 || number == 0x85 || number == 0xa0 ||
    number == 0x1680 || (0x2000 ≤ number && number ≤ 0x200a) || number == 0x2028 ||
    number == 0x2029 || number == 0x202f || number == 0x205f || number == 0x3000

/-- Where the reading of a directive is.  Places count from the first character that is
not white space. -/
inductive Stage where
  | start
  | name (start : Nat)
  | level (start : Nat)
  | span (start : Nat)
  | field (start : Nat)
  | afterField
  | afterSpan
  deriving DecidableEq

/-- A directive that is being read, and where. -/
structure Draft where
  directive : WrittenDirective
  stage : Stage

/-- Whether a text is a number behind a sign: infinite, no number at all, or digits with
a point and an exponent or without. -/
def isSignedNumber : List Char → Bool
  | '+' :: text =>
      let text := text.map Char.toLower
      let exponent := (text.dropWhile (· != 'e')).drop 1
      let exponentDigits := match exponent with
        | '+' :: digits => digits
        | '-' :: digits => digits
        | digits => digits
      let parts := (text.takeWhile (· != 'e')).splitOn '.'
      let digits := parts.flatten
      ["inf", "infinity", "nan"].contains (String.ofList text) ||
        (parts.length ≤ 2 && !digits.isEmpty && digits.all Char.isDigit &&
          (!text.contains 'e' || !exponentDigits.isEmpty) &&
          exponentDigits.all Char.isDigit)
  | _ => false

/-- The field of a text, which is not empty.  A value that is asked of it is a pattern
or a number. -/
def fieldOf? (text : List Char) : Option SpanField :=
  match text.splitOn '=' with
  | [] => none
  | [name] => if name.isEmpty then none else some ⟨String.ofList name, false⟩
  | name :: value :: _ =>
      if Pattern.isPattern value || isSignedNumber value then some ⟨String.ofList name, true⟩
      else none

/-- Read the character at a place.  What stands between two places is taken from the
text, where white space at the front counts as well. -/
def Draft.read? (text : List Char) (draft : Draft) (symbol : Char × Nat) : Option Draft :=
  let (c, place) := symbol
  let directive := draft.directive
  let since (start : Nat) := (text.take place).drop start
  match draft.stage with
  | .start =>
      if c = '[' then some { draft with stage := .span (place + 1) }
      else if isFirstCharacter c then some { draft with stage := .name place }
      else none
  | .name start =>
      let target := some (String.ofList (since start))
      if c = '=' then some ⟨{ directive with target }, .level (place + 1)⟩
      else if c = '[' then some ⟨{ directive with target }, .span (place + 1)⟩
      else some draft
  | .level _ => some draft
  | .span start =>
      if c = ']' then
        some ⟨{ directive with span := some (String.ofList (since start)) }, .afterSpan⟩
      else if c = '\x7b' then
        let span := if since start = [] then none else some (String.ofList (since start))
        some ⟨{ directive with span }, .field (place + 1)⟩
      else some draft
  | .field start =>
      if c = '\x7d' then
        (fieldOf? (since start)).map fun field =>
          ⟨{ directive with field := some field }, .afterField⟩
      else some draft
  | .afterField => if c = ']' then some { draft with stage := .afterSpan } else none
  | .afterSpan => if c = '=' then some { draft with stage := .level (place + 1) } else none

/-- End the reading at the end of the text.  A target without a level, or with an empty
one, shows everything. -/
def Draft.finish? (text : List Char) (draft : Draft) : Option WrittenDirective :=
  let directive := draft.directive
  match draft.stage with
  | .name start =>
      let name := String.ofList (text.drop start)
      match levelOf? name with
      | some level => some { directive with level }
      | none => some { directive with target := some name }
  | .level start =>
      let name := String.ofList (text.drop start)
      if name = "" then some directive
      else (levelOf? name).map fun level => { directive with level }
  | .afterSpan => some directive
  | _ => none

/-- Read a directive. -/
def parse? (text : String) : Option WrittenDirective :=
  let text := text.toList
  let trimmed := ((text.dropWhile isWhiteSpace).reverse.dropWhile isWhiteSpace).reverse
  let draft : Draft := ⟨⟨none, none, none, some .trace⟩, .start⟩
  (trimmed.zipIdx.foldlM (Draft.read? text) draft).bind (Draft.finish? text)

/-- What a directive says about lines outside all spans. -/
def outsideSpans? (directive : WrittenDirective) : Option LogDirective :=
  if directive.span.isSome || directive.field.any SpanField.hasValue then none
  else some ⟨directive.target, directive.field.map SpanField.name, directive.level⟩

end WrittenDirective

/-! ## Filters -/

namespace LogDirective

/-- Whether a directive is about a line. -/
def covers (directive : LogDirective) (line : LogLine) : Bool :=
  directive.target.all (fun target => line.target.name.startsWith target) &&
    directive.field.all (· = "message")

/-- How narrow the target of a directive is: no target is less narrow than an empty
one. -/
def narrowness (directive : LogDirective) : Nat :=
  match directive.target with
  | none => 0
  | some target => target.length + 1

/-- Whether a directive is at least as narrow as another one. -/
def outweighs (directive other : LogDirective) : Bool :=
  other.narrowness < directive.narrowness ||
    (other.narrowness == directive.narrowness &&
      (directive.field.isSome || other.field.isNone))

/-- Whether a line shows under a directive for it. -/
def shows (directive : LogDirective) (line : LogLine) : Bool :=
  match directive.level with
  | none => false
  | some level => line.level.rank ≤ level.rank

end LogDirective

namespace LogFilter

/-- Everything up to a level is shown. -/
def upTo (level : Level) : LogFilter := ⟨[⟨none, none, some level⟩]⟩

/-- Read a filter.  Without any directive only errors are shown. -/
def parse? (text : String) : Option LogFilter := do
  let parts := (text.toList.splitOn ',').filter fun part => part ≠ []
  let directives ← parts.mapM fun part => WrittenDirective.parse? (String.ofList part)
  return if directives = [] then upTo .error
    else ⟨directives.filterMap WrittenDirective.outsideSpans?⟩

/-- The filter of an environment.  An unreadable one is as good as none. -/
def ofVariable (text : Option String) : LogFilter :=
  (text.bind parse?).getD (upTo .info)

/-- The directive that counts for a line. -/
def directive? (filter : LogFilter) (line : LogLine) : Option LogDirective :=
  (filter.directives.filter fun directive => directive.covers line).foldl
    (fun best directive => match best with
      | none => some directive
      | some other => if directive.outweighs other then some directive else best)
    none

/-- Whether a line is shown. -/
def shows (filter : LogFilter) (line : LogLine) : Bool :=
  (filter.directive? line).any fun directive => directive.shows line

/-- The text of those lines that are shown. -/
def text (filter : LogFilter) (lines : List LogLine) : String :=
  String.join ((lines.filter filter.shows).map LogLine.text)

end LogFilter
end TransitLoad
