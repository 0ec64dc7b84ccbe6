import CronCalendar.Field.Kind
import CronCalendar.Text.Blank
import CronCalendar.Text.Decimal

/-!
# Tokens of a field expression

A field expression is written with numerals and the signs `*`, `,`, `/` and `-`. `tokens?` cuts
an expression into tokens; it refuses any other character, blanks between tokens included, and
numerals that do not fit into 32 bits.
-/

namespace CronCalendar.Field
set_option autoImplicit false

/-- The tokens of a field expression. -/
inductive Token where
  | number (n : Nat)
  | star
  | comma
  | slash
  | dash
  deriving DecidableEq, Repr

/-- The sign a character stands for. -/
def sign? : Char → Option Token
  | '*' => some .star
  | ',' => some .comma
  | '/' => some .slash
  | '-' => some .dash
  | _ => none

/-- The numbers a numeral may stand for are below this. -/
def numberLimit : Nat := Nat.pow 2 32

/-- The tokens of a text without blanks around it. -/
def tokensOf? : List Char → Option (List Token)
  | [] => some []
  | c :: rest =>
    if c.isDigit then
      let digits := c :: rest.takeWhile Char.isDigit
      let n := Decimal.value digits
      if n < numberLimit then (tokensOf? (rest.dropWhile Char.isDigit)).map (.number n :: ·)
      else none
    else
      match sign? c with
      | none => none
      | some token => (tokensOf? rest).map (token :: ·)
termination_by s => s.length
decreasing_by
  · have := (List.dropWhile_sublist (l := rest) Char.isDigit).length_le
    simp only [List.length_cons]
    omega
  · simp

/-- The tokens of an expression. Blanks around it do not count. -/
def tokens? (expression : String) : Option (List Token) :=
  tokensOf? (Text.trim expression.toList)

end CronCalendar.Field
