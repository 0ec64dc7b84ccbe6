import CronCalendar.Field.Expr
import CronCalendar.Random.Source

/-!
# Random fields

The expression `R` stands for one number drawn when the field is set. Any other expression stays
as it is.
-/

namespace CronCalendar.Field
set_option autoImplicit false

open Random (Source draw)

/-- Whether an expression is the letter that stands for a random number. -/
def isRandom (expression : String) : Bool := Text.trimmed expression == "R"

/-- An expression with a random number drawn for it, if it asks for one. -/
def expandRandom {σ : Type} [Source σ] (expression : String) (b : Bounds) (s : σ) : String × σ :=
  if isRandom expression then
    let (n, s) := draw b s
    (Decimal.text n, s)
  else (expression, s)

/-- `expandRandom`, refusing to draw from bounds that are out of order. -/
def expandRandom? {σ : Type} [Source σ] (expression : String) (b : Bounds) (s : σ) :
    Option (String × σ) :=
  if isRandom expression && decide (b.greatest < b.least) then none
  else some (expandRandom expression b s)

/-- Expressions drawn one after the other from the same text, until a draw is refused. -/
def expandRandomTimes? {σ : Type} [Source σ] (expression : String) (b : Bounds) (s : σ) :
    Nat → Option (List String)
  | 0 => some []
  | n + 1 => do
    let (text, s) ← expandRandom? expression b s
    let rest ← expandRandomTimes? expression b s n
    some (text :: rest)

end CronCalendar.Field
