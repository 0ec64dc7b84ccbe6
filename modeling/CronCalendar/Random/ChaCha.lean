import CronCalendar.Random.Source

/-!
# The ChaCha random source

A random source made of the ChaCha stream cipher with twelve rounds: block after block of sixteen
words, under a key that a 64-bit seed is stretched to.
-/

namespace CronCalendar.Random
set_option autoImplicit false

namespace ChaCha

/-- A word turned left by `n` bits, for `n` from 1 to 31. -/
def rotateLeft (x n : UInt32) : UInt32 := (x <<< n) ||| (x >>> (32 - n))

/-- The sixteen words of a block. -/
abbrev Block := Vector UInt32 16

/-- Stirs four words of a block. -/
def quarterRound (v : Block) (i j k l : Fin 16) : Block :=
  let a := v[i] + v[j]
  let d := rotateLeft (v[l] ^^^ a) 16
  let c := v[k] + d
  let b := rotateLeft (v[j] ^^^ c) 12
  let a := a + b
  let d := rotateLeft (d ^^^ a) 8
  let c := c + d
  let b := rotateLeft (b ^^^ c) 7
  (((v.set i a).set j b).set k c).set l d

/-- Two rounds: over the columns of a block, then over its diagonals. -/
def doubleRound (v : Block) : Block :=
  let v := quarterRound v 0 4 8 12
  let v := quarterRound v 1 5 9 13
  let v := quarterRound v 2 6 10 14
  let v := quarterRound v 3 7 11 15
  let v := quarterRound v 0 5 10 15
  let v := quarterRound v 1 6 11 12
  let v := quarterRound v 2 7 8 13
  quarterRound v 3 4 9 14

/-- A block after a number of double rounds. -/
def stir (v : Block) : Nat → Block
  | 0 => v
  | n + 1 => stir (doubleRound v) n

/-- The words every block starts with. -/
def constants : Vector UInt32 4 := #v[0x61707865, 0x3320646e, 0x79622d32, 0x6b206574]

/-- The block numbered `counter` before it is stirred. -/
def setup (key : Vector UInt32 8) (counter : UInt64) : Block :=
  let position : Vector UInt32 4 := #v[counter.toUInt32, (counter >>> 32).toUInt32, 0, 0]
  constants ++ key ++ position

/-- The words that the block numbered `counter` yields. -/
def keystream (key : Vector UInt32 8) (counter : UInt64) : List UInt32 :=
  let v := setup key counter
  ((stir v 6).zipWith (· + ·) v).toList

/-- A word turned right by the low five bits of `n`. -/
def rotateRight (x n : UInt32) : UInt32 := (x >>> (n % 32)) ||| (x <<< ((32 - n % 32) % 32))

/-- The next state of the generator that stretches a seed. -/
def stretch (s : UInt64) : UInt64 := s * 6364136223846793005 + 11634580027462260723

/-- The word that a state of that generator yields. -/
def stretchedWord (s : UInt64) : UInt32 :=
  rotateRight (((s >>> 18) ^^^ s) >>> 27).toUInt32 (s >>> 59).toUInt32

/-- The first `n` words that a seed is stretched to. -/
def stretchedWords (s : UInt64) : Nat → List UInt32
  | 0 => []
  | n + 1 => stretchedWord (stretch s) :: stretchedWords (stretch s) n

/-- The key that a seed is stretched to. -/
def keyOf (seed : UInt64) : Vector UInt32 8 :=
  let ws := stretchedWords seed 8
  Vector.ofFn fun i => ws.getD i.val 0

end ChaCha

/-- A position in the stream of words of a key. -/
structure ChaCha where
  key : Vector UInt32 8
  /-- The number of the next block. -/
  counter : UInt64
  /-- The words of the block before it that have not been drawn. -/
  pending : List UInt32

namespace ChaCha

/-- The start of the stream that a seed names. -/
def ofSeed (seed : UInt64) : ChaCha := ⟨keyOf seed, 0, []⟩

/-- The next word of the stream. -/
def next (s : ChaCha) : UInt32 × ChaCha :=
  match s.pending with
  | word :: rest => (word, { s with pending := rest })
  | [] =>
    match keystream s.key s.counter with
    | word :: rest => (word, ⟨s.key, s.counter + 1, rest⟩)
    | [] => (0, s)

instance : Source ChaCha := ⟨next⟩

end ChaCha

end CronCalendar.Random
