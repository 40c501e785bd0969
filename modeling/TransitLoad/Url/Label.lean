/-!
# Labels beyond ASCII

A label of a domain name that holds characters beyond ASCII is written in ASCII: after
`xn--` come its ASCII characters, a hyphen if there are any, and digits in base 36.
The digits are whole numbers of varying length, one for each further character, which
say by how much the number of the character grows and where it goes.  Each whole number
starts with its least significant digit, and a digit below the threshold of its place
ends it.  The thresholds adapt to the numbers read so far.
-/

namespace TransitLoad
namespace Url

/-- What marks a label that is written in ASCII. -/
def labelMark : List Char := ['x', 'n', '-', '-']

/-- Whether a character lies beyond ASCII. -/
def isWide (c : Char) : Bool := 0x80 ≤ c.toNat

/-! ## Digits -/

/-- The value of a digit: letters come before the digits of ASCII. -/
def labelDigit? (c : Char) : Option Nat :=
  if 'a' ≤ c ∧ c ≤ 'z' then some (c.toNat - 0x61)
  else if '0' ≤ c ∧ c ≤ '9' then some (c.toNat - 0x30 + 26)
  else none

/-- The digit of a value below 36. -/
def labelDigit (value : Nat) : Char :=
  if value < 26 then Char.ofNat (0x61 + value) else Char.ofNat (0x30 + value - 26)

/-- The threshold of a place, places being counted in steps of 36. -/
def labelThreshold (bias place : Nat) : Nat :=
  max 1 (min 26 (place - bias))

/-- The digits of a whole number from a place on. -/
def labelDigits (bias place number : Nat) : List Char :=
  let threshold := labelThreshold bias place
  if number < threshold then [labelDigit number]
  else
    let above := number - threshold
    labelDigit (threshold + above % (36 - threshold)) ::
      labelDigits bias (place + 36) (above / (36 - threshold))
termination_by number
decreasing_by
  have positive : 1 ≤ labelThreshold bias place := Nat.le_max_left _ _
  have fewer := Nat.div_le_self (number - labelThreshold bias place)
    (36 - labelThreshold bias place)
  omega

/-- How often a growth is divided by 35 until it is small enough, and what is left of
it. -/
def scaledGrowth (growth : Nat) : Nat × Nat :=
  if 455 < growth then
    let (times, rest) := scaledGrowth (growth / 35)
    (times + 1, rest)
  else (0, growth)
termination_by growth
decreasing_by omega

/-- The bias after a growth, of so many characters then. -/
def adaptedBias (growth count : Nat) (isFirst : Bool) : Nat :=
  let damped := if isFirst then growth / 700 else growth / 2
  let (times, rest) := scaledGrowth (damped + damped / count)
  36 * times + 36 * rest / (rest + 38)

/-! ## Characters -/

/-- A label under construction, and the whole number that is being read. -/
structure LabelDraft where
  written : List Char
  /-- The number of the last character. -/
  number : Nat
  /-- The place after the last character. -/
  position : Nat
  bias : Nat
  /-- The value of the digits read so far. -/
  growth : Nat
  weight : Nat
  place : Nat

namespace LabelDraft

/-- Nothing but the ASCII characters. -/
def start (ascii : List Char) : LabelDraft := ⟨ascii, 0x80, 0, 72, 0, 1, 36⟩

/-- Insert the next character, the whole number being read. -/
def insert? (draft : LabelDraft) : Option LabelDraft :=
  let count := draft.written.length + 1
  let total := draft.position + draft.growth
  let number := draft.number + total / count
  let position := total % count
  if number.isValidChar then
    let bias := adaptedBias draft.growth count (draft.position == 0)
    some ⟨draft.written.insertIdx position (Char.ofNat number), number, position + 1, bias,
      0, 1, 36⟩
  else none

/-- Whole numbers and the weights of digits go no further. -/
def limit : Nat := 4294967295

/-- Read a digit. -/
def read? (draft : LabelDraft) (c : Char) : Option LabelDraft := do
  let digit ← labelDigit? c
  let threshold := labelThreshold draft.bias draft.place
  let draft := { draft with growth := draft.growth + digit * draft.weight }
  if limit < draft.position + draft.growth then none
  else if digit < threshold then draft.insert?
  else
    let weight := draft.weight * (36 - threshold)
    if limit < weight then none else some { draft with weight, place := draft.place + 36 }

/-- The whole number that says that a character with some number is inserted next, at some
position. -/
def growthTo (draft : LabelDraft) (number position : Nat) : Nat :=
  (number - draft.number) * (draft.written.length + 1) + position - draft.position

/-- Insert further characters, each given by its number and the position where it goes,
and write the whole numbers that say so. -/
def write (draft : LabelDraft) : List (Nat × Nat) → List Char
  | [] => []
  | (number, position) :: rest =>
      let growth := draft.growthTo number position
      labelDigits draft.bias draft.place growth ++
        match { draft with growth }.insert? with
        | some draft => draft.write rest
        | none => []

end LabelDraft

/-! ## Labels -/

/-- The ASCII characters before the last hyphen, and what comes after it.  A hyphen with
nothing before it separates nothing. -/
def splitLabel (label : List Char) : List Char × List Char :=
  let digits := (label.reverse.takeWhile (· != '-')).reverse
  let ascii := label.take (label.length - digits.length - 1)
  if ascii.isEmpty then ([], label) else (ascii, digits)

/-- The most characters that may follow the mark of a label. -/
def longestLabel : Nat := 2000

/-- The characters that a label stands for, what marks it being left out.  A whole
number at the end is complete. -/
def decodeLabel? (label : List Char) : Option (List Char) :=
  if longestLabel < label.length then none
  else
    let (ascii, digits) := splitLabel label
    match digits.foldlM LabelDraft.read? (.start ascii) with
    | some draft => if draft.place = 36 then some draft.written else none
    | none => none

/-- Whether a character at a place is inserted no later than another one: characters go
by their numbers, and equal ones by their places. -/
def comesFirst : Char × Nat → Char × Nat → Bool
  | (c, place), (c', place') => c < c' ∨ c = c' ∧ place ≤ place'

/-- The characters of a label beyond ASCII, with their places, in the order in which they
are inserted. -/
def wideCharacters (label : List Char) : List (Char × Nat) :=
  (label.zipIdx.filter fun (c, _) => isWide c).mergeSort comesFirst

/-- How a character of a label is inserted: its number, and how many characters stand
before it by then. -/
def insertion (label : List Char) : Char × Nat → Nat × Nat
  | (c, place) => (c.toNat, (label.take place).countP (· ≤ c))

/-- A label as it is written in ASCII, what marks it being left out. -/
def encodeLabel (label : List Char) : List Char :=
  let ascii := label.filter (!isWide ·)
  (if ascii.isEmpty then [] else ascii ++ ['-']) ++
    (LabelDraft.start ascii).write ((wideCharacters label).map (insertion label))

end Url
end TransitLoad
