import TransitLoad.Binary64
import TransitLoad.Fault

/-!
# Random choices

A generator is an endless sequence of 32-bit words and the position of the next
one.  Every draw takes words from the front: one for an index (two when the first
word lands in the biased remainder), two for a 64-bit word or a fraction.

Seeding expands a 64-bit seed into a key and reads the words off a ChaCha stream
of twelve rounds.

A draw makes random choices: it takes words from a generator and ends in a value
or in a fault.  The words that were taken stay taken in either case.
-/

namespace TransitLoad

/-- A sequence of random words together with the position of the next one. -/
structure Generator where
  word : Nat → UInt32
  position : Nat := 0

namespace Generator

/-- Take the next word. -/
def next (generator : Generator) : UInt32 × Generator :=
  (generator.word generator.position,
    { generator with position := generator.position + 1 })

/-- Take two words as one of 64 bits, the low half first. -/
def nextLong (generator : Generator) : UInt64 × Generator :=
  let (low, generator) := generator.next
  let (high, generator) := generator.next
  (UInt64.ofNat (high.toNat * UInt32.size + low.toNat), generator)

/-- Draw a fraction from zero up to one: the upper fifty-three bits of two words,
as so many parts of `2 ^ -53`. -/
def nextFraction (generator : Generator) : Binary64 × Generator :=
  let (long, generator) := generator.nextLong
  (.ofRat (((long.toNat / 2048 : Nat) : Rat) / (9007199254740992 : Nat)), generator)

/-- Draw an index below a length under `2 ^ 32`; there is none below zero.  The
high half of the word times the length is the index; where the low half says that
a finer word could carry into it, one more word decides. -/
def nextIndex? (generator : Generator) (length : Nat) : Option (Nat × Generator) :=
  if length = 0 then none
  else
    let (word, generator) := generator.next
    let product := word.toNat * length
    let index := product / UInt32.size
    let low := product % UInt32.size
    if (UInt32.size - length) % UInt32.size < low then
      let (finer, generator) := generator.next
      let carry := finer.toNat * length / UInt32.size
      if UInt32.size ≤ low + carry then some (index + 1, generator)
      else some (index, generator)
    else some (index, generator)

/-! ## Seeding -/

/-- Rotate a word to the left by fewer than its 32 places. -/
def rotateLeft (word places : UInt32) : UInt32 :=
  (word <<< places) ||| (word >>> (32 - places : UInt32))

/-- One step of the linear congruence that expands a seed. -/
def advanceSeed (seed : UInt64) : UInt64 :=
  seed * 6364136223846793005 + 11634580027462260723

/-- The word read off an expanding seed: its upper bits folded together and
rotated to the right by the topmost five. -/
def wordOfSeed (seed : UInt64) : UInt32 :=
  let folded := (((seed >>> 18) ^^^ seed) >>> 27).toUInt32
  let turn : UInt32 := (seed >>> 59).toUInt32
  rotateLeft folded ((32 - turn) % 32)

/-- The first words read off a seed. -/
def seedWords : Nat → UInt64 → List UInt32
  | 0, _ => []
  | count + 1, seed =>
      let seed := advanceSeed seed
      wordOfSeed seed :: seedWords count seed

/-- The sixteen words that one block is computed from and turned into. -/
abbrev Block := Vector UInt32 16

/-- Mix four words of a block. -/
def quarterRound (block : Block) (a b c d : Fin 16) : Block :=
  let block := block.set a (block[a] + block[b])
  let block := block.set d (rotateLeft (block[d] ^^^ block[a]) 16)
  let block := block.set c (block[c] + block[d])
  let block := block.set b (rotateLeft (block[b] ^^^ block[c]) 12)
  let block := block.set a (block[a] + block[b])
  let block := block.set d (rotateLeft (block[d] ^^^ block[a]) 8)
  let block := block.set c (block[c] + block[d])
  block.set b (rotateLeft (block[b] ^^^ block[c]) 7)

/-- Mix the four columns of a block, then its four diagonals. -/
def doubleRound (block : Block) : Block :=
  let block := quarterRound block 0 4 8 12
  let block := quarterRound block 1 5 9 13
  let block := quarterRound block 2 6 10 14
  let block := quarterRound block 3 7 11 15
  let block := quarterRound block 0 5 10 15
  let block := quarterRound block 1 6 11 12
  let block := quarterRound block 2 7 8 13
  quarterRound block 3 4 9 14

/-- The block that mixing starts from: four constants, the key, a 64-bit counter
and two zeros. -/
def initialBlock (key : List UInt32) (counter : Nat) : Block :=
  Vector.ofFn fun place =>
    (([0x61707865, 0x3320646e, 0x79622d32, 0x6b206574] ++ key ++
      [UInt32.ofNat counter, UInt32.ofNat (counter / UInt32.size), 0, 0])[place.val]?).getD 0

/-- One block of the stream: the initial block, mixed for twelve rounds and added
to itself. -/
def streamBlock (key : List UInt32) (counter : Nat) : Block :=
  let initial := initialBlock key counter
  Vector.zipWith (· + ·) initial (Nat.repeat doubleRound 6 initial)

/-- The generator that a seed stands for. -/
def ofSeed (seed : UInt64) : Generator :=
  let key := seedWords 8 seed
  { word := fun position =>
      (streamBlock key (position / 16)).get ⟨position % 16, Nat.mod_lt _ (by decide)⟩ }

end Generator

/-! ## Draws -/

/-- A computation that takes words from a generator. -/
abbrev Draw (α : Type) := ExceptT Fault (StateM Generator) α

namespace Draw

/-- Make a draw from a generator. -/
def from? (draw : Draw α) (generator : Generator) : Except Fault α × Generator :=
  draw.run.run generator

/-- Draw an index below a length. -/
def index (length : Nat) : Draw Nat := fun generator =>
  match generator.nextIndex? length with
  | none => (.error .emptyChoice, generator)
  | some (index, generator) => (.ok index, generator)

/-- Draw a fraction from zero up to one. -/
def fraction : Draw Binary64 := fun generator =>
  let (fraction, generator) := generator.nextFraction
  (.ok fraction, generator)

/-- Look up an element that has to be there. -/
def element (elements : List α) (index : Nat) : Except Fault α :=
  match elements[index]? with
  | some element => .ok element
  | none => .error (.outOfBounds elements.length index)

end Draw
end TransitLoad
