import CronCalendar.Field.Kind

/-!
# Random sources

A random source yields 32-bit words. `draw` turns them into numbers of a range, each equally
likely: a word is scaled to the range by multiplication, and words whose scaled remainder falls
into the incomplete part at the end are drawn again.
-/

namespace CronCalendar.Random
set_option autoImplicit false

open Field (Bounds)

/-- A state from which a 32-bit word and the next state can be drawn. -/
class Source (σ : Type) where
  next : σ → UInt32 × σ

/-- One more than the greatest word. -/
def wordLimit : Nat := Nat.pow 2 32

/-- The words drawn at most for one number. More than half of the words are accepted. -/
def attempts : Nat := 1024

/-- The remainders accepted for a range of `size` numbers are below this: `size` times the
largest power of two that keeps it within one word. -/
def acceptedBelow (size : Nat) : Nat := size * Nat.pow 2 (31 - Nat.log2 size)

/-- A number below `size`, from at most the given number of words; 0 if none is accepted. -/
def drawBelow {σ : Type} [Source σ] (size : Nat) : Nat → σ → Nat × σ
  | 0, s => (0, s)
  | n + 1, s =>
    let (word, s) := Source.next s
    let scaled := word.toNat * size
    if scaled % wordLimit < acceptedBelow size then (scaled / wordLimit, s)
    else drawBelow size n s

/-- A number within the bounds; the lower bound if they are out of order. -/
def draw {σ : Type} [Source σ] (b : Bounds) (s : σ) : Nat × σ :=
  let size := b.greatest + 1 - b.least
  if size = 0 then (b.least, s)
  else if size = wordLimit then
    let (word, s) := Source.next s
    (b.least + word.toNat, s)
  else
    let (n, s) := drawBelow size attempts s
    (b.least + n, s)

end CronCalendar.Random
