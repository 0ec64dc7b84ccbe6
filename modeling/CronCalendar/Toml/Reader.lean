import CronCalendar.Json.Token
import CronCalendar.Text.Decimal
import CronCalendar.Toml.Table

/-!
# Reading TOML

A document is read line by line: a line is blank, opens a table or gives a key its value. Values
are strings on one line, truth values and numbers; arrays, inline tables, dates and strings over
several lines are not taken.
-/

namespace CronCalendar.Toml
set_option autoImplicit false

/-- Whether a character is a blank within a line. -/
def isSpace (c : Char) : Bool := c == ' ' || c == '\t'

/-- A text without the blanks it starts with. -/
def skipSpaces (s : List Char) : List Char := s.dropWhile isSpace

/-- Whether a character may stand in a line: no control character but the tab may. -/
def isPlain (c : Char) : Bool := c == '\t' || (decide (0x20 ≤ c.toNat) && c != '\x7f')

/-- Whether a text is the end of a line: nothing but blanks and a comment. -/
def isLineEnd (s : List Char) : Bool :=
  match skipSpaces s with
  | [] => true
  | '#' :: comment => comment.all isPlain
  | _ => false

/-- Whether a character may stand in a key without quotes. -/
def isBareKeyChar (c : Char) : Bool := c.isAlphanum || c == '_' || c == '-'

/-- The number that hexadecimal digits stand for. -/
def hexNumber? (ds : List Char) : Option Nat :=
  (ds.mapM Json.hexValue?).map fun values => values.foldl (fun n d => 16 * n + d) 0

/-- The character with a code point, if there is one. -/
def charOf? (n : Nat) : Option Char :=
  if Nat.isValidChar n then some (Char.ofNat n) else none

/-- The character that a one-letter escape stands for. -/
def escaped? : Char → Option Char
  | '/' => none
  | c => Json.escaped? c

/-- The content of a string in double quotes from behind its opening quote, and what follows it. -/
def basicString? : List Char → Option (List Char × List Char)
  | '"' :: rest => some ([], rest)
  | '\\' :: 'u' :: a :: b :: c :: d :: rest => do
    let char ← (hexNumber? [a, b, c, d]).bind charOf?
    let (content, rest) ← basicString? rest
    some (char :: content, rest)
  | '\\' :: 'U' :: a :: b :: c :: d :: e :: f :: g :: h :: rest => do
    let char ← (hexNumber? [a, b, c, d, e, f, g, h]).bind charOf?
    let (content, rest) ← basicString? rest
    some (char :: content, rest)
  | '\\' :: c :: rest => do
    let char ← escaped? c
    let (content, rest) ← basicString? rest
    some (char :: content, rest)
  | c :: rest =>
    if isPlain c then do
      let (content, rest) ← basicString? rest
      some (c :: content, rest)
    else none
  | [] => none

/-- The content of a string in single quotes from behind its opening quote, and what follows it. -/
def literalString? : List Char → Option (List Char × List Char)
  | '\'' :: rest => some ([], rest)
  | c :: rest =>
    if isPlain c then do
      let (content, rest) ← literalString? rest
      some (c :: content, rest)
    else none
  | [] => none

/-- A key, bare or in quotes, and what follows it. -/
def key? : List Char → Option (String × List Char)
  | '"' :: rest => (basicString? rest).map fun (content, rest) => (String.ofList content, rest)
  | '\'' :: rest => (literalString? rest).map fun (content, rest) => (String.ofList content, rest)
  | s =>
    let bare := s.takeWhile isBareKeyChar
    if bare.isEmpty then none else some (String.ofList bare, s.dropWhile isBareKeyChar)

/-- At most `n` keys joined by dots, with blanks around them, and what follows them. -/
def keys? : Nat → List Char → Option (List String × List Char)
  | 0, _ => none
  | n + 1, s => do
    let (key, rest) ← key? (skipSpaces s)
    match skipSpaces rest with
    | '.' :: rest =>
      let (keys, rest) ← keys? n rest
      some (key :: keys, rest)
    | rest => some ([key], rest)

/-- A numeral without its underscores, if each of them stands between two digits. -/
def withoutUnderscores? (isDigit : Char → Bool) : List Char → Option (List Char)
  | [] => some []
  | a :: '_' :: b :: rest =>
    if isDigit a && isDigit b then (withoutUnderscores? isDigit (b :: rest)).map (a :: ·) else none
  | '_' :: _ => none
  | c :: rest => (withoutUnderscores? isDigit rest).map (c :: ·)

/-- The base that a letter behind a leading zero stands for. -/
def base? : Char → Option Nat
  | 'x' => some 16
  | 'o' => some 8
  | 'b' => some 2
  | _ => none

/-- What a character stands for as a digit of a base. -/
def digit? (base : Nat) (c : Char) : Option Nat := (Json.hexValue? c).filter (· < base)

/-- A whole number of sixty-four bits by its digits in a base. -/
def wholeNumber? (base : Nat) (digits : List Char) : Option Json := do
  let digits ← withoutUnderscores? (fun c => (digit? base c).isSome) digits
  let values ← digits.mapM (digit? base)
  let n := values.foldl (fun n d => base * n + d) 0
  if values.isEmpty || decide (Nat.pow 2 63 ≤ n) then none else some (.number (Decimal.text n))

/-- A number in base ten: a whole number of sixty-four bits, or one with a fraction or an
exponent. -/
def decimalNumber? (s : List Char) : Option Json := do
  let numeral ← withoutUnderscores? Char.isDigit s
  let unsigned := match numeral with
    | '+' :: '-' :: _ => []
    | '+' :: rest => rest
    | numeral => numeral
  if Json.isNumber unsigned then
    let isWhole := unsigned.all fun c => c.isDigit || c == '-'
    let limit := if unsigned.head? = some '-' then Nat.pow 2 63 else Nat.pow 2 63 - 1
    if isWhole && decide (limit < Decimal.value (unsigned.filter Char.isDigit)) then none
    else some (.number (String.ofList unsigned))
  else none

/-- A number, in base ten or with the letter of its base behind a leading zero. -/
def number? : List Char → Option Json
  | '0' :: letter :: digits =>
    match base? letter with
    | some base => wholeNumber? base digits
    | none => decimalNumber? ('0' :: letter :: digits)
  | s => decimalNumber? s

/-- Whether a character can be part of a value without quotes. -/
def isValueChar (c : Char) : Bool := c.isAlphanum || c == '_' || c == '-' || c == '+' || c == '.'

/-- A value, and what follows it. -/
def value? : List Char → Option (Json × List Char)
  | '"' :: rest =>
    (basicString? rest).map fun (content, rest) => (.ofText (String.ofList content), rest)
  | '\'' :: rest =>
    (literalString? rest).map fun (content, rest) => (.ofText (String.ofList content), rest)
  | s => do
    let word := s.takeWhile isValueChar
    let rest := s.dropWhile isValueChar
    if word = ['t', 'r', 'u', 'e'] then some (.bool true, rest)
    else if word = ['f', 'a', 'l', 's', 'e'] then some (.bool false, rest)
    else (number? word).map (·, rest)

/-- A line of a document. -/
inductive Line where
  | blank
  /-- Opens the table that the keys lead to. -/
  | header (keys : List String)
  /-- Gives a key its value. -/
  | assignment (keys : List String) (value : Json)

/-- Reads a line. -/
def line? (s : List Char) : Option Line :=
  if isLineEnd s then some .blank
  else
    match skipSpaces s with
    | '[' :: rest => do
      let (keys, rest) ← keys? rest.length rest
      match rest with
      | ']' :: rest => if isLineEnd rest then some (.header keys) else none
      | _ => none
    | s => do
      let (keys, rest) ← keys? s.length s
      match rest with
      | '=' :: rest => do
        let (value, rest) ← value? (skipSpaces rest)
        if isLineEnd rest then some (.assignment keys value) else none
      | _ => none

/-- The lines of a text. A carriage return before the end of a line belongs to the end. -/
def splitLines : List Char → List (List Char)
  | [] => [[]]
  | '\r' :: '\n' :: rest => [] :: splitLines rest
  | '\n' :: rest => [] :: splitLines rest
  | c :: rest =>
    match splitLines rest with
    | [] => [[c]]
    | line :: lines => (c :: line) :: lines

/-- A document as far as it has been read: its tables, and the keys that lead to the open one. -/
structure Document where
  root : Children
  opened : List String

/-- Adds a line to a document. -/
def Document.add? (d : Document) : Line → Option Document
  | .blank => some d
  | .header keys => (openTable? keys d.root).map fun root => ⟨root, keys⟩
  | .assignment keys value => (assignIn? value keys d.opened d.root).map fun root => { d with root }

/-- Adds lines to a document, one after the other. -/
def Document.addAll? (d : Document) : List (List Char) → Option Document
  | [] => some d
  | s :: rest => ((line? s).bind d.add?).bind fun d => addAll? d rest

/-- A text without the byte order mark it may start with. -/
def withoutMark : List Char → List Char
  | '\ufeff' :: rest => rest
  | s => s

/-- Reads a document. -/
def parse? (text : String) : Option Json :=
  ((Document.addAll? ⟨[], []⟩) (splitLines (withoutMark text.toList))).map fun d =>
    .object (membersOf d.root)

end CronCalendar.Toml
