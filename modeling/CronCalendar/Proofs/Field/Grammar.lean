import CronCalendar.Field.Expr
import Mathlib.Data.List.Chain

/-!
# The grammar of field expressions

An `Expression` is a field expression as it is meant to be written: terms parted by commas, each a
star, a number or a range, and perhaps one step. `Expression.text` is how it is written and
`Expression.values` which values it stands for, term by term.

A `LooseExpression` may have terms missing and any number of steps behind one another. Its steps
thin out the values one after the other, and a missing term stands for no values.

Both are lists of signs and numerals, their `lexemes`, and numerals may have leading zeros.
-/

namespace CronCalendar.Field
set_option autoImplicit false

/-- A non-empty run of digits. -/
structure Numeral where
  digits : List Char
  nonempty : digits ≠ []
  all_isDigit : ∀ c ∈ digits, c.isDigit = true

namespace Numeral

/-- The number that a numeral stands for. -/
def value (n : Numeral) : Nat := Decimal.value n.digits

/-- The number that a numeral stands for lies within some bounds. -/
def Within (b : Bounds) (n : Numeral) : Prop := b.least ≤ n.value ∧ n.value ≤ b.greatest

instance (b : Bounds) (n : Numeral) : Decidable (n.Within b) := inferInstanceAs (Decidable (_ ∧ _))

end Numeral

/-- A sign or a numeral of an expression. -/
inductive Lexeme where
  | numeral (n : Numeral)
  | star
  | comma
  | slash
  | dash

namespace Lexeme

/-- How a lexeme is written. -/
def text : Lexeme → List Char
  | numeral n => n.digits
  | star => ['*']
  | comma => [',']
  | slash => ['/']
  | dash => ['-']

/-- How lexemes are written one after the other. -/
def spell (ls : List Lexeme) : List Char := ls.flatMap text

/-- The token a lexeme is read as. -/
def token : Lexeme → Token
  | numeral n => .number n.value
  | star => .star
  | comma => .comma
  | slash => .slash
  | dash => .dash

end Lexeme

/-- The values from `lo` to `hi`, none if `hi` comes first. -/
def span (lo hi : Nat) : Values := ⟨List.range' lo (hi + 1 - lo), List.pairwise_lt_range'⟩

/-- What a term begins with. -/
inductive Atom where
  | star
  | number (n : Numeral)
  | range (lo hi : Numeral)

namespace Atom

def lexemes : Atom → List Lexeme
  | star => [.star]
  | number n => [.numeral n]
  | range lo hi => [.numeral lo, .dash, .numeral hi]

/-- The numerals of an atom. -/
def literals : Atom → List Numeral
  | star => []
  | number n => [n]
  | range lo hi => [lo, hi]

/-- The values of an atom that stands alone. -/
def values (b : Bounds) : Atom → Values
  | star => span b.least b.greatest
  | number n => .singleton n.value
  | range lo hi => span lo.value hi.value

/-- The values of an atom that a step thins out: a number stands for all from it on. -/
def valuesToStep (b : Bounds) : Atom → Values
  | number n => span n.value b.greatest
  | atom => atom.values b

end Atom

/-- An atom, perhaps with a step. -/
structure Term where
  atom : Atom
  step : Option Numeral

namespace Term

def lexemes (t : Term) : List Lexeme :=
  t.atom.lexemes ++ match t.step with
    | none => []
    | some s => [.slash, .numeral s]

/-- The numerals of a term, its step included. -/
def literals (t : Term) : List Numeral := t.atom.literals ++ t.step.toList

/-- The values of a term. A step keeps those at the positions that it divides. -/
def values (b : Bounds) (t : Term) : Values :=
  match t.step with
  | none => t.atom.values b
  | some s => (t.atom.valuesToStep b).everyNth s.value

end Term

/-- Terms parted by commas. -/
structure Expression where
  first : Term
  more : List Term

namespace Expression

def terms (e : Expression) : List Term := e.first :: e.more

def lexemes (e : Expression) : List Lexeme :=
  e.first.lexemes ++ e.more.flatMap fun t => .comma :: t.lexemes

/-- How an expression is written. -/
def text (e : Expression) : List Char := Lexeme.spell e.lexemes

/-- The numerals of an expression, steps included. -/
def literals (e : Expression) : List Numeral := e.terms.flatMap Term.literals

/-- The steps of an expression. -/
def steps (e : Expression) : List Numeral := e.terms.flatMap fun t => t.step.toList

/-- The values of an expression: those of its terms. -/
def values (b : Bounds) (e : Expression) : Values := .unionAll (e.terms.map (Term.values b))

end Expression

/-- An atom with any number of steps behind it. -/
structure LooseTerm where
  atom : Atom
  steps : List Numeral

namespace LooseTerm

def lexemes (t : LooseTerm) : List Lexeme :=
  t.atom.lexemes ++ t.steps.flatMap fun s => [.slash, .numeral s]

def literals (t : LooseTerm) : List Numeral := t.atom.literals ++ t.steps

/-- The values that one more step thins out. Each step keeps those at the positions that it divides. -/
def valuesToStep (b : Bounds) (t : LooseTerm) : Values :=
  t.steps.foldl (fun v s => v.everyNth s.value) (t.atom.valuesToStep b)

/-- The values of a term. -/
def values (b : Bounds) (t : LooseTerm) : Values :=
  if t.steps = [] then t.atom.values b else t.valuesToStep b

/-- The numerals of a term lie within some bounds and none of its steps is zero. -/
def Admissible (b : Bounds) (t : LooseTerm) : Prop :=
  (∀ n ∈ t.literals, n.Within b) ∧ ∀ s ∈ t.steps, s.value ≠ 0

end LooseTerm

/-- Terms parted by commas, some of which may be missing. -/
structure LooseExpression where
  first : Option LooseTerm
  more : List (Option LooseTerm)

namespace LooseExpression

/-- What stands between two commas. -/
def piece : Option LooseTerm → List Lexeme
  | none => []
  | some t => t.lexemes

def pieces (e : LooseExpression) : List (Option LooseTerm) := e.first :: e.more

/-- The terms that are there. -/
def terms (e : LooseExpression) : List LooseTerm := e.pieces.filterMap id

def lexemes (e : LooseExpression) : List Lexeme :=
  piece e.first ++ e.more.flatMap fun t => .comma :: piece t

/-- How a loose expression is written. -/
def text (e : LooseExpression) : List Char := Lexeme.spell e.lexemes

/-- The values of a loose expression: those of the terms that are there. -/
def values (b : Bounds) (e : LooseExpression) : Values := .unionAll (e.terms.map (LooseTerm.values b))

/-- The numerals lie within some bounds and no step is zero. -/
def Admissible (b : Bounds) (e : LooseExpression) : Prop := ∀ t ∈ e.terms, t.Admissible b

/-- A term is missing or has more than one step. -/
def Irregular (e : LooseExpression) : Prop :=
  none ∈ e.pieces ∨ ∃ t ∈ e.terms, 1 < t.steps.length

end LooseExpression

end CronCalendar.Field
