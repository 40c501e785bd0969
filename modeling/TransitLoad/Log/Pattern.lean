import TransitLoad.Text.CharacterSets

/-!
# Patterns

The value that a log filter asks of a field is a pattern: a row of items, each of which
may be repeated.  An item is a character, a class of characters between brackets or a
group between parentheses, and a bar separates alternatives.  Only whether a text is a
pattern matters here.

Braces have no place in patterns, nor have the names of classes of characters, the
bounds of words and letters of either case.
-/

namespace TransitLoad
namespace Pattern

/-- What a character that is written with a backslash is part of. -/
inductive Place where
  /-- It is an item. -/
  | item
  /-- It belongs to a class. -/
  | member
  /-- It ends a range of characters in a class. -/
  | rangeEnd (first : Char)
  deriving DecidableEq

/-- Where the reading of a pattern is. -/
inductive Stage where
  /-- Before an item, and perhaps after one that may be repeated. -/
  | items (isRepeatable : Bool)
  | escape (place : Place)
  /-- In the hexadecimal digits of a character, of which so many are left. -/
  | digits (place : Place) (left value : Nat)
  /-- After the parenthesis that opens a group. -/
  | group
  /-- After the question mark that says more about a group. -/
  | groupKind
  | groupNameStart
  | groupName (reversed : List Char)
  /-- In the flags of a group; some may be switched off, and some have to follow. -/
  | flags (seen : List Char) (areOff areMissing : Bool)
  /-- After the bracket that opens a class. -/
  | classStart
  /-- Before the first member of a class. -/
  | classFront (isBracketMember : Bool)
  | members
  /-- After a hyphen where a member may stand. -/
  | hyphen
  /-- After a character that may start a range. -/
  | literal (c : Char)
  /-- After the hyphen of a range. -/
  | range (first : Char)
  deriving DecidableEq

/-- A pattern that is being read. -/
structure Draft where
  stage : Stage
  openGroups : Nat
  openClasses : Nat
  groupNames : List (List Char)

namespace Draft

/-- Before the first item. -/
def start : Draft := ⟨.items false, 0, 0, []⟩

/-- Read the next character of a row of items. -/
def readItem? (draft : Draft) (isRepeatable : Bool) (c : Char) : Option Draft :=
  if c = '(' then some { draft with stage := .group }
  else if c = ')' then
    if draft.openGroups = 0 then none
    else some { draft with stage := .items true, openGroups := draft.openGroups - 1 }
  else if c = '|' then some { draft with stage := .items false }
  else if c = '[' then some { draft with stage := .classStart, openClasses := 1 }
  else if c = '?' ∨ c = '*' ∨ c = '+' then
    if isRepeatable then some { draft with stage := .items true } else none
  else if c = '\x7b' then none
  else if c = '\\' then some { draft with stage := .escape .item }
  else some { draft with stage := .items true }

/-! ## Groups -/

/-- Go into a group. -/
def enterGroup (draft : Draft) : Draft :=
  { draft with stage := .items false, openGroups := draft.openGroups + 1 }

/-- Read the next of a group's flags, or their end. -/
def readFlag? (draft : Draft) (seen : List Char) (areOff areMissing : Bool) (c : Char) :
    Option Draft :=
  if c = ':' then if areMissing then none else some draft.enterGroup
  else if c = ')' then
    if areMissing ∨ seen = [] then none else some { draft with stage := .items false }
  else if c = '-' then
    if areOff then none else some { draft with stage := .flags seen true true }
  else if seen.contains c ∨ (c = 'i' ∧ !areOff) then none
  else if ['i', 'm', 's', 'U', 'u', 'x', 'R'].contains c then
    some { draft with stage := .flags (c :: seen) areOff false }
  else none

/-- Read the next character of a group's name, or its end. -/
def readName? (draft : Draft) (reversed : List Char) (c : Char) : Option Draft :=
  let isLetter := c == '_' || c.isAlpha || Text.alphanumeric.contains c
  let isFurther := c.isDigit || ['.', '[', ']'].contains c
  if c = '>' then
    if reversed = [] ∨ draft.groupNames.contains reversed then none
    else some { draft with groupNames := reversed :: draft.groupNames }.enterGroup
  else if isLetter || (isFurther && reversed ≠ []) then
    some { draft with stage := .groupName (c :: reversed) }
  else none

/-! ## Classes -/

/-- Read the next member of a class, or its end. -/
def readMember? (draft : Draft) (c : Char) : Option Draft :=
  if c = ']' then
    let stage : Stage := if draft.openClasses = 1 then .items true else .members
    some { draft with stage, openClasses := draft.openClasses - 1 }
  else if c = '[' then
    some { draft with stage := .classStart, openClasses := draft.openClasses + 1 }
  else if c = '\\' then some { draft with stage := .escape .member }
  else if c = '-' then some { draft with stage := .hyphen }
  else some { draft with stage := .literal c }

/-- Read the first member of a class.  Hyphens, and a closing bracket before them,
stand for themselves there. -/
def readFront? (draft : Draft) (isBracketMember : Bool) (c : Char) : Option Draft :=
  if c = '-' then some { draft with stage := .classFront false }
  else if c = ']' ∧ isBracketMember then some { draft with stage := .members }
  else draft.readMember? c

/-- End a range of characters. -/
def endRange? (draft : Draft) (first last : Char) : Option Draft :=
  if first ≤ last then some { draft with stage := .members } else none

/-! ## Characters after a backslash -/

/-- Control characters that letters stand for. -/
def controls : List (Char × Char) :=
  [('a', '\x07'), ('f', '\x0c'), ('n', '\n'), ('r', '\r'), ('t', '\t'), ('v', '\x0b')]

/-- How many hexadecimal digits come after a letter. -/
def digitCount? (c : Char) : Option Nat := [('x', 2), ('u', 4), ('U', 8)].lookup c

/-- Whether a character stands for itself after a backslash. -/
def isEscapable (c : Char) : Bool :=
  c.toNat < 0x80 && !c.isAlphanum && c != '<' && c != '>'

/-- Take in a character that is written with a backslash. -/
def takeIn? (draft : Draft) (place : Place) (c : Char) : Option Draft :=
  match place with
  | .item => some { draft with stage := .items true }
  | .member => some { draft with stage := .literal c }
  | .rangeEnd first => draft.endRange? first c

/-- Read the character after a backslash.  Two letters stand for the ends of the text. -/
def readEscape? (draft : Draft) (place : Place) (c : Char) : Option Draft :=
  match digitCount? c, controls.lookup c with
  | some count, _ => some { draft with stage := .digits place count 0 }
  | none, some control => draft.takeIn? place control
  | none, none =>
      if isEscapable c then draft.takeIn? place c
      else if (c = 'A' ∨ c = 'z') ∧ place = .item then draft.takeIn? place c
      else none

/-- The value of a hexadecimal digit. -/
def digit? (c : Char) : Option Nat :=
  if c.isDigit then some (c.toNat - 0x30)
  else if 'a' ≤ c.toLower ∧ c.toLower ≤ 'f' then some (c.toLower.toNat - 0x57)
  else none

/-- Read a hexadecimal digit. -/
def readDigit? (draft : Draft) (place : Place) (left value : Nat) (c : Char) :
    Option Draft := do
  let value := 16 * value + (← digit? c)
  if 1 < left then some { draft with stage := .digits place (left - 1) value }
  else if value.isValidChar then draft.takeIn? place (Char.ofNat value)
  else none

/-! ## Patterns -/

/-- Read the next character of a pattern. -/
def read? (draft : Draft) (c : Char) : Option Draft :=
  match draft.stage with
  | .items isRepeatable => draft.readItem? isRepeatable c
  | .escape place => draft.readEscape? place c
  | .digits place left value => draft.readDigit? place left value c
  | .group =>
      if c = '?' then some { draft with stage := .groupKind }
      else draft.enterGroup.readItem? false c
  | .groupKind =>
      if c = '<' then some { draft with stage := .groupName [] }
      else if c = 'P' then some { draft with stage := .groupNameStart }
      else draft.readFlag? [] false false c
  | .groupNameStart =>
      if c = '<' then some { draft with stage := .groupName [] } else none
  | .groupName reversed => draft.readName? reversed c
  | .flags seen areOff areMissing => draft.readFlag? seen areOff areMissing c
  | .classStart =>
      if c = '^' then some { draft with stage := .classFront true }
      else draft.readFront? true c
  | .classFront isBracketMember => draft.readFront? isBracketMember c
  | .members => draft.readMember? c
  | .hyphen =>
      if c = '-' then some { draft with stage := .members } else draft.readMember? c
  | .literal first =>
      if c = '-' then some { draft with stage := .range first } else draft.readMember? c
  | .range first =>
      if c = ']' then draft.readMember? c
      else if c = '-' then some { draft with stage := .members }
      else if c = '\\' then some { draft with stage := .escape (.rangeEnd first) }
      else draft.endRange? first c

/-- Whether a pattern may end here. -/
def isComplete (draft : Draft) : Bool :=
  match draft.stage with
  | .items _ => draft.openGroups = 0
  | _ => false

end Draft

/-- Whether a text is a pattern. -/
def isPattern (text : List Char) : Bool :=
  (text.foldlM Draft.read? .start).any Draft.isComplete

end Pattern
end TransitLoad
