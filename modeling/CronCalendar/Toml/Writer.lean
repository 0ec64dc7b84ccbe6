import CronCalendar.Json.Basic

/-!
# Writing TOML

Tables of texts and truth values as TOML. A text is written in the first of these forms that
needs no escapes for it: double quotes, single quotes, three double quotes, three single quotes.
Only the latter two take line breaks. If none will do, it is written in double quotes with escapes,
three of them if it has several lines. A key is written bare if it can be.
-/

namespace CronCalendar.Toml
set_option autoImplicit false

/-- Whether a character may stand in a key without quotes. -/
def isBare (c : Char) : Bool := c.isAlphanum || c == '_' || c == '-'

/-- The hexadecimal digits of a number in four places. -/
def upperHex (n : Nat) : List Char := (Json.fourHex n).map Char.toUpper

/-- Whether a character is a control character. -/
def isControl (c : Char) : Bool := decide (c.toNat < 0x20) || c == '\x7f'

/-- A character within double quotes. A line break is kept in a text over several lines. -/
def escape (severalLines : Bool) (c : Char) : List Char :=
  if c = '\n' ∧ severalLines = true then ['\n']
  else if c = '\n' then ['\\', 'n']
  else if c = '\r' then ['\\', 'r']
  else if c = '\t' then ['\\', 't']
  else if c = '\x08' then ['\\', 'b']
  else if c = '\x0c' then ['\\', 'f']
  else if c = '"' then ['\\', '"']
  else if c = '\\' then ['\\', '\\']
  else if isControl c then '\\' :: 'u' :: upperHex c.toNat
  else [c]

/-- The content of a text in three double quotes. Two quotation marks in a row may stand there as
they are; `run` of them stand in front, counted from the last other character or escape. -/
def escapeLong (run : Nat) : List Char → List Char
  | [] => []
  | c :: rest =>
    if c = '"' ∧ run < 2 then c :: escapeLong (run + 1) rest
    else escape true c ++ escapeLong 0 rest

/-- The length of the longest run of a character in a text that follows `run` of them. -/
def longestRun (mark : Char) (run : Nat) : List Char → Nat
  | [] => run
  | c :: rest =>
    if c = mark then longestRun mark (run + 1) rest else max run (longestRun mark 0 rest)

/-- Whether a text holds a character that has to be escaped even where line breaks may stand. -/
def needsEscapes (s : List Char) : Bool := s.any fun c => isControl c && c != '\t' && c != '\n'

/-- A text in double quotes. -/
def doubleQuoted (s : List Char) : List Char := '"' :: s.flatMap (escape false) ++ ['"']

/-- A text in single quotes. -/
def singleQuoted (s : List Char) : List Char := '\'' :: s ++ ['\'']

/-- A text of one or several lines in three quotation marks at either end. A line break behind the
first three does not count. -/
def longQuoted (mark : Char) (s content : List Char) : List Char :=
  let marks := [mark, mark, mark]
  marks ++ (if s.contains '\n' then ['\n'] else []) ++ content ++ marks

/-- A text as a value. -/
def quote (s : List Char) : List Char :=
  let oneLine := !s.contains '\n'
  let literal := !needsEscapes s
  let basic := literal && !s.contains '\\'
  if basic && oneLine && !s.contains '"' then doubleQuoted s
  else if literal && oneLine && !s.contains '\'' then singleQuoted s
  else if basic && decide (longestRun '"' 0 s ≤ 2) then longQuoted '"' s (escapeLong 0 s)
  else if literal && decide (longestRun '\'' 0 s ≤ 2) then longQuoted '\'' s s
  else if oneLine then doubleQuoted s
  else longQuoted '"' s (escapeLong 0 s)

/-- Whether a key holds what would have to be escaped in double quotes: a quotation mark or a
backslash. -/
def wantsLiteral (s : List Char) : Bool := s.any fun c => c == '"' || c == '\\'

/-- A key. -/
def keyText (s : List Char) : List Char :=
  if !s.isEmpty && s.all isBare then s
  else if wantsLiteral s && s.all fun c => c == '\t' || (!isControl c && c != '\'') then
    singleQuoted s
  else doubleQuoted s

/-- A value. Texts have forms of their own; truth values and numbers are written as in JSON. -/
def valueText : Json → List Char
  | .string (some s) => quote s.toList
  | j => j.compact

/-- A key and its value as a line. -/
def entryText (entry : String × Json) : List Char :=
  keyText entry.1.toList ++ [' ', '=', ' '] ++ valueText entry.2 ++ ['\n']

/-- The header that leads to a table through some keys. -/
def headerText (keys : List String) : List Char :=
  '[' :: (['.'].intercalate (keys.map fun key => keyText key.toList)) ++ [']', '\n']

/-- A table under its header. -/
def tableText (keys : List String) (entries : List (String × Json)) : List Char :=
  headerText keys ++ entries.flatMap entryText

/-- Tables with a blank line between each two. -/
def documentText (tables : List (List String × List (String × Json))) : String :=
  String.ofList (['\n'].intercalate (tables.map fun (keys, entries) => tableText keys entries))

end CronCalendar.Toml
