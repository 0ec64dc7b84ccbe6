import CronCalendar.Field.Progression
import CronCalendar.Field.Token

/-!
# What a field expression matches

An expression lists terms, parted by commas. A term is a number, a range or a star, and steps
may thin it out:

* `5` is the value 5, but before a step it is the range from 5 to the upper bound;
* `3-7` is the range from 3 to 7, which is empty when it runs backwards;
* `*` is every value within the bounds;
* `/n` keeps the members at the positions 0, n, 2n and so on of what stands before it.

The scanner reads one token at a time and keeps a `Cursor`: what it has of the term it is in.
An expression that it refuses matches nothing.
-/

namespace CronCalendar.Field
set_option autoImplicit false

/-- How far a term has been read. -/
inductive Cursor where
  /-- Nothing has been read since the start or the last comma. -/
  | start
  /-- A number, which a range or a step may follow. -/
  | literal (n : Nat)
  /-- A star, a range or a stepped term, which only a step may follow. -/
  | members (p : Progression)
  /-- A number and a dash, behind which the upper end has to follow. -/
  | rangeFrom (n : Nat)
  /-- The members of a term and a slash, behind which the step has to follow. -/
  | stepOf (p : Progression)

/-- What an expression matches as far as it has been read. -/
structure Scan where
  /-- The terms in front of the last comma, the last one first. -/
  finished : List Progression
  /-- The term behind it. -/
  cursor : Cursor

namespace Cursor

/-- What a term matches if it ends here, if it may end here. -/
def finish? : Cursor → Option (List Progression)
  | start => some []
  | literal n => some [.single n]
  | members p => some [p]
  | rangeFrom _ => none
  | stepOf _ => none

/-- The cursor behind a token other than a comma, if the token may stand here. -/
def next? (b : Bounds) : Cursor → Token → Option Cursor
  | cursor, .number n =>
    if n < b.least ∨ b.greatest < n then none
    else
      match cursor with
      | start => some (literal n)
      | rangeFrom m => some (members (.interval m n))
      | stepOf p => if hn : 0 < n then some (members (p.everyNth n hn)) else none
      | literal _ => none
      | members _ => none
  | start, .star => some (members (.interval b.least b.greatest))
  | literal n, .dash => some (rangeFrom n)
  | literal n, .slash => some (stepOf (.interval n b.greatest))
  | members p, .slash => some (stepOf p)
  | _, _ => none

end Cursor

namespace Scan

/-- Nothing has been read yet. -/
def initial : Scan := ⟨[], .start⟩

/-- What has been read behind one more token, if the token may stand here. -/
def next? (b : Bounds) (s : Scan) : Token → Option Scan
  | .comma => s.cursor.finish?.map fun term => ⟨term ++ s.finished, .start⟩
  | token => (s.cursor.next? b token).map fun cursor => ⟨s.finished, cursor⟩

/-- What has been read behind all of some tokens. -/
def run? (b : Bounds) (s : Scan) : List Token → Option Scan
  | [] => some s
  | token :: rest => (s.next? b token).bind fun s => run? b s rest

/-- What the expression matches if it ends here, term by term, the last term first. -/
def terms? (s : Scan) : Option (List Progression) := s.cursor.finish?.map (· ++ s.finished)

end Scan

/-- The terms of an expression, each as the numbers it matches, the last term first. -/
def terms? (expression : String) (b : Bounds) : Option (List Progression) := do
  let tokens ← tokens? expression
  let scan ← Scan.initial.run? b tokens
  scan.terms?

/-- The values within the bounds that an expression matches. -/
def evaluate (expression : String) (b : Bounds) : Values :=
  match terms? expression b with
  | some terms => Values.unionAll (terms.map Progression.values)
  | none => Values.empty

end CronCalendar.Field
