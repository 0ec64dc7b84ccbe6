/-!
# JSON values and their text

A JSON value with the members of objects in the order in which they are written, and repeated
keys kept. `compact` writes a value without any blanks and `pretty` over several lines, with two
spaces for each level.

The escapes of a string literal can name half of a surrogate pair, which is no character. Such a
literal is JSON, but its content is no text, and it is kept as `none`.
-/

namespace CronCalendar
set_option autoImplicit false

/-- A JSON value. Numbers are kept as they are written. -/
inductive Json where
  | null
  | bool (b : Bool)
  | number (numeral : String)
  | string (content : Option String)
  | array (items : List Json)
  | object (members : List (Option String × Json))
  deriving Inhabited

namespace Json

/-- A text as a JSON value. -/
def ofText (s : String) : Json := .string (some s)

/-- Whether a value is `null`. -/
def isNull : Json → Bool
  | null => true
  | _ => false

/-- Whether a value is an object without members. -/
def isEmptyObject : Json → Bool
  | object [] => true
  | _ => false

/-- The hexadecimal digits of a number in four places. -/
def fourHex (n : Nat) : List Char :=
  let digit := fun k => Nat.digitChar (n / k % 16)
  [digit 4096, digit 256, digit 16, digit 1]

/-- A character as it is written in a string literal. -/
def escape (c : Char) : List Char :=
  if c = '"' then ['\\', '"']
  else if c = '\\' then ['\\', '\\']
  else if c = '\n' then ['\\', 'n']
  else if c = '\r' then ['\\', 'r']
  else if c = '\t' then ['\\', 't']
  else if c = '\x08' then ['\\', 'b']
  else if c = '\x0c' then ['\\', 'f']
  else if c.toNat < 0x20 then '\\' :: 'u' :: fourHex c.toNat
  else [c]

/-- A string literal. A content that is no text is written as one half of a surrogate pair. -/
def quote : Option String → List Char
  | some s => '"' :: s.toList.flatMap escape ++ ['"']
  | none => '"' :: '\\' :: 'u' :: fourHex 0xd800 ++ ['"']

mutual

/-- A value without blanks. -/
def compact : Json → List Char
  | null => ['n', 'u', 'l', 'l']
  | bool true => ['t', 'r', 'u', 'e']
  | bool false => ['f', 'a', 'l', 's', 'e']
  | number numeral => numeral.toList
  | string content => quote content
  | array [] => ['[', ']']
  | array (item :: items) => '[' :: compact item ++ compactItems items
  | object [] => ['{', '}']
  | object ((key, value) :: members) =>
    '{' :: quote key ++ ':' :: compact value ++ compactMembers members

/-- The items of an array behind its first, and the closing bracket. -/
def compactItems : List Json → List Char
  | [] => [']']
  | item :: items => ',' :: compact item ++ compactItems items

/-- The members of an object behind its first, and the closing brace. -/
def compactMembers : List (Option String × Json) → List Char
  | [] => ['}']
  | (key, value) :: members =>
    ',' :: quote key ++ ':' :: compact value ++ compactMembers members

end

/-- The start of a line at a level. -/
def newline (level : Nat) : List Char := '\n' :: List.replicate (2 * level) ' '

mutual

/-- A value over several lines, where its first line stands at a level. -/
def prettyAt (level : Nat) : Json → List Char
  | null => ['n', 'u', 'l', 'l']
  | bool true => ['t', 'r', 'u', 'e']
  | bool false => ['f', 'a', 'l', 's', 'e']
  | number numeral => numeral.toList
  | string content => quote content
  | array [] => ['[', ']']
  | array (item :: items) =>
    '[' :: newline (level + 1) ++ prettyAt (level + 1) item ++ prettyItems level items
  | object [] => ['{', '}']
  | object ((key, value) :: members) =>
    '{' :: newline (level + 1) ++ quote key ++ ':' :: ' ' :: prettyAt (level + 1) value ++
      prettyMembers level members

/-- The items of an array behind its first, and the closing bracket at a level. -/
def prettyItems (level : Nat) : List Json → List Char
  | [] => newline level ++ [']']
  | item :: items =>
    ',' :: newline (level + 1) ++ prettyAt (level + 1) item ++ prettyItems level items

/-- The members of an object behind its first, and the closing brace at a level. -/
def prettyMembers (level : Nat) : List (Option String × Json) → List Char
  | [] => newline level ++ ['}']
  | (key, value) :: members =>
    ',' :: newline (level + 1) ++ quote key ++ ':' :: ' ' :: prettyAt (level + 1) value ++
      prettyMembers level members

end

/-- A value over several lines. -/
def pretty (j : Json) : List Char := prettyAt 0 j

end Json

end CronCalendar
