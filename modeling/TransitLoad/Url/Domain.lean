import TransitLoad.Text.Composition
import TransitLoad.Text.Direction
import TransitLoad.Text.PlainForms
import TransitLoad.Url.Label

/-!
# Domain names

A domain name is a row of labels.  It is put into its plain and composed form, and labels
with characters beyond ASCII are written in ASCII.  A label that is marked as standing
for characters beyond ASCII has to stand for some, in their plain and composed form.  In a
name with characters that are written from right to left, every label keeps to one
direction: it starts with a letter, all its characters go with that letter, and it ends in
a letter or a digit.
-/

namespace TransitLoad
namespace Url

/-! ## Labels -/

/-- Whether a character may stand in a label, between what comes before it, reversed,
and what comes after it.  A joiner or its opposite comes after a mark that suppresses a
vowel, and the opposite also where letters join. -/
def fits (reversedBefore : List Char) (c : Char) (after : List Char) : Bool :=
  if c = Text.joiner ∨ c = Text.nonJoiner then
    reversedBefore.head?.any (Text.combiningClass · == Text.vowelKillerClass) ||
      (c == Text.nonJoiner && Text.isJoint reversedBefore after)
  else Text.isDomainCharacter c

/-- Whether all further characters of a label may stand in it. -/
def allFit : (reversedBefore : List Char) → List Char → Bool
  | _, [] => true
  | reversedBefore, c :: rest =>
      fits reversedBefore c rest && allFit (c :: reversedBefore) rest

/-- The most characters of a label with characters beyond ASCII. -/
def longestWideLabel : Nat := 1000

/-- Whether characters, some of them beyond ASCII, are those of a label. -/
def isWideLabel (characters : List Char) : Bool :=
  characters.any isWide && characters.length ≤ longestWideLabel &&
    !characters.head?.any Text.isMark && Text.isComposed characters && allFit [] characters

/-- The characters that a label in its plain form stands for, if it is one. -/
def labelCharacters? (label : List Char) : Option (List Char) :=
  if label.take 4 = labelMark then
    if label.any isWide then none else (decodeLabel? (label.drop 4)).filter isWideLabel
  else if label.any isWide then (some label).filter isWideLabel
  else some label

/-- A label as it is written in ASCII. -/
def asciiLabel (label : List Char) : List Char :=
  if label.any isWide then labelMark ++ encodeLabel label else label

/-! ## Directions -/

/-- Whether characters are written from right to left, or some of them are. -/
def hasRightToLeft (characters : List Char) : Bool :=
  characters.any fun c => Text.direction c ∈ [.rightToLeft, .arabicNumber]

/-- Whether the characters of a label keep to one direction.  Marks at the end go with
what they mark, and digits of both forms do not go together. -/
def keepsDirection : List Char → Bool
  | [] => true
  | first :: rest =>
      let reversed := (rest.map Text.direction).reverse.dropWhile (· = .mark)
      match Text.direction first with
      | .leftToRight =>
          !reversed.contains .rightToLeft && !reversed.contains .arabicNumber &&
            reversed.head?.all (· ∈ [.leftToRight, .europeanNumber])
      | .rightToLeft =>
          !reversed.contains .leftToRight &&
            !(reversed.contains .arabicNumber && reversed.contains .europeanNumber) &&
            reversed.head?.all (· ∈ [.rightToLeft, .arabicNumber, .europeanNumber])
      | _ => false

/-! ## Names -/

/-- Whether labels in their plain form make a domain name. -/
def isDomainName (labels : List (List Char)) : Bool :=
  match labels.mapM labelCharacters? with
  | some labels => !labels.any hasRightToLeft || labels.all keepsDirection
  | none => false

/-- ASCII characters that no domain name may hold. -/
def isForbiddenInDomain (c : Char) : Bool :=
  c.toNat ≤ 0x20 || c.toNat == 0x7f ||
    ['%', '#', '/', ':', '<', '>', '?', '@', '[', '\\', ']', '^', '|'].contains c

/-- A domain name as it is written in ASCII, if it is one. -/
def domainName? (name : List Char) : Option (List Char) := do
  let forms ← name.mapM Text.plainForm?
  let plain := Text.composed forms.flatten
  let labels := plain.splitOn '.'
  if plain.any isForbiddenInDomain || !isDomainName labels then none
  else some (['.'].intercalate (labels.map asciiLabel))

end Url
end TransitLoad
