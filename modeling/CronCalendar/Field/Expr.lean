import CronCalendar.Field.Evaluation

/-!
# Stored fields

A schedule keeps for each field either no restriction, a set of values or the text of an
expression. Two stored fields count as the same when their texts agree.
-/

namespace CronCalendar.Field
set_option autoImplicit false

/-- What a schedule stores for a field. -/
inductive Expr where
  /-- Any value: the field is not restricted. -/
  | any
  /-- The listed values. -/
  | values (v : Values)
  /-- The values that an expression matches. -/
  | text (s : String)
  deriving DecidableEq

namespace Expr

/-- The field that a text stands for: a lone star is no restriction. -/
def ofText (s : String) : Expr :=
  let s := Text.trimmed s
  if s = "*" then any else text s

/-- The text of a field. -/
def toText : Expr → String
  | any => "*"
  | values v => ",".intercalate (v.toList.map Decimal.text)
  | text s => s

/-- Whether the field is not restricted. -/
def isAny : Expr → Bool
  | any => true
  | _ => false

/-- Whether two fields have the same text. -/
def sameText (e f : Expr) : Bool := e.toText == f.toText

end Expr

/-- The values of a kind that a stored field matches. -/
def Kind.evaluate (kind : Kind) (e : Expr) : Values :=
  let b := kind.expressionBounds
  let v :=
    match e with
    | .any => Field.evaluate "*" b
    | .values v => v.within b.least b.greatest
    | .text s => Field.evaluate s b
  if kind = .dayOfWeek then foldSunday v else v

end CronCalendar.Field
