import CronCalendar.Json.Basic

/-!
# JSON tokens

The lexer takes one character at a time. Between tokens it accepts blanks and signs; a quotation
mark takes it into a string literal, and a letter, digit or minus sign into a bare word, which
goes on up to the next character that cannot be part of one and has to be `true`, `false`, `null`
or a number.
-/

namespace CronCalendar.Json
set_option autoImplicit false

/-- The tokens of a JSON text. -/
inductive Token where
  | openArray
  | closeArray
  | openObject
  | closeObject
  | colon
  | comma
  /-- A literal that is not a string: a number, a truth value or null. -/
  | scalar (value : Json)
  | string (content : Option String)

/-- What a string literal consists of: characters and halves of surrogate pairs. -/
inductive Piece where
  | char (c : Char)
  | half (unit : Nat)

/-- Whether a number is the first half of a surrogate pair. -/
def isHighHalf (n : Nat) : Bool := decide (0xD800 ≤ n) && decide (n < 0xDC00)

/-- Whether a number is the second half of a surrogate pair. -/
def isLowHalf (n : Nat) : Bool := decide (0xDC00 ≤ n) && decide (n < 0xE000)

/-- The character that a surrogate pair stands for. -/
def pairedChar (high low : Nat) : Char :=
  Char.ofNat (0x10000 + 0x400 * (high - 0xD800) + (low - 0xDC00))

/-- The content of a string literal, if every half has its other half behind it. -/
def joinPieces? : List Piece → Option (List Char)
  | [] => some []
  | .char c :: rest => (joinPieces? rest).map (c :: ·)
  | .half high :: .half low :: rest =>
    if isHighHalf high && isLowHalf low then (joinPieces? rest).map (pairedChar high low :: ·)
    else none
  | .half _ :: _ => none

/-- The piece that an escape with a four-digit number stands for. -/
def unicodePiece (n : Nat) : Piece :=
  if isHighHalf n || isLowHalf n then .half n else .char (Char.ofNat n)

/-- The value of a hexadecimal digit. -/
def hexValue? (c : Char) : Option Nat :=
  if '0' ≤ c ∧ c ≤ '9' then some (c.toNat - '0'.toNat)
  else if 'a' ≤ c ∧ c ≤ 'f' then some (c.toNat - 'a'.toNat + 10)
  else if 'A' ≤ c ∧ c ≤ 'F' then some (c.toNat - 'A'.toNat + 10)
  else none

/-- The character that a one-letter escape stands for. -/
def escaped? : Char → Option Char
  | '"' => some '"'
  | '\\' => some '\\'
  | '/' => some '/'
  | 'b' => some '\x08'
  | 'f' => some '\x0c'
  | 'n' => some '\n'
  | 'r' => some '\r'
  | 't' => some '\t'
  | _ => none

/-- The digits at the start of a text, if there are any, and what follows them. -/
def digits? (s : List Char) : Option (List Char) :=
  if (s.takeWhile Char.isDigit).isEmpty then none else some (s.dropWhile Char.isDigit)

/-- What follows the whole part of a number: one zero, or digits that do not start with one. -/
def afterWhole? : List Char → Option (List Char)
  | '0' :: rest => some rest
  | s => digits? s

/-- What follows the fraction of a number, if it has one. -/
def afterFraction? : List Char → Option (List Char)
  | '.' :: rest => digits? rest
  | s => some s

/-- What follows the digits of an exponent, with or without a sign. -/
def afterExponentDigits? : List Char → Option (List Char)
  | '+' :: rest => digits? rest
  | '-' :: rest => digits? rest
  | s => digits? s

/-- What follows the exponent of a number, if it has one. -/
def afterExponent? : List Char → Option (List Char)
  | 'e' :: rest => afterExponentDigits? rest
  | 'E' :: rest => afterExponentDigits? rest
  | s => some s

/-- Whether a word is a number. -/
def isNumber (s : List Char) : Bool :=
  let unsigned := match s with
    | '-' :: rest => rest
    | s => s
  match ((afterWhole? unsigned).bind afterFraction?).bind afterExponent? with
  | some [] => true
  | _ => false

/-- The value that a bare word stands for. -/
def wordValue? (s : List Char) : Option Json :=
  if s = ['t', 'r', 'u', 'e'] then some (.bool true)
  else if s = ['f', 'a', 'l', 's', 'e'] then some (.bool false)
  else if s = ['n', 'u', 'l', 'l'] then some .null
  else if isNumber s then some (.number (String.ofList s))
  else none

/-- Whether a character can be part of a bare word. -/
def isWordChar (c : Char) : Bool := c.isAlphanum || c == '-' || c == '+' || c == '.'

/-- Where the lexer stands. Characters and pieces are kept the latest first. -/
inductive Mode where
  /-- Between tokens. -/
  | between
  /-- In a bare word. -/
  | word (cs : List Char)
  /-- In a string literal. -/
  | literal (pieces : List Piece)
  /-- Behind a backslash. -/
  | escape (pieces : List Piece)
  /-- In an escape by number, with its digits so far. -/
  | unicode (pieces : List Piece) (count value : Nat)

/-- The lexer: where it stands and the tokens it has read, the latest first. -/
structure Lexer where
  mode : Mode
  tokens : List Token

namespace Lexer

/-- Nothing has been read yet. -/
def initial : Lexer := ⟨.between, []⟩

/-- Takes a character between tokens. -/
def stepBetween? (tokens : List Token) (c : Char) : Option Lexer :=
  if c = ' ' ∨ c = '\n' ∨ c = '\t' ∨ c = '\r' then some ⟨.between, tokens⟩
  else if c = '[' then some ⟨.between, .openArray :: tokens⟩
  else if c = ']' then some ⟨.between, .closeArray :: tokens⟩
  else if c = '\x7b' then some ⟨.between, .openObject :: tokens⟩
  else if c = '\x7d' then some ⟨.between, .closeObject :: tokens⟩
  else if c = ':' then some ⟨.between, .colon :: tokens⟩
  else if c = ',' then some ⟨.between, .comma :: tokens⟩
  else if c = '"' then some ⟨.literal [], tokens⟩
  else if isWordChar c then some ⟨.word [c], tokens⟩
  else none

/-- The tokens behind the end of a bare word. -/
def endWord? (tokens : List Token) (cs : List Char) : Option (List Token) :=
  (wordValue? cs.reverse).map fun value => .scalar value :: tokens

/-- The token of a string literal. -/
def literalToken (pieces : List Piece) : Token :=
  .string ((joinPieces? pieces.reverse).map String.ofList)

/-- Takes one character. -/
def step? (l : Lexer) (c : Char) : Option Lexer :=
  match l.mode with
  | .between => stepBetween? l.tokens c
  | .word cs =>
    if isWordChar c then some ⟨.word (c :: cs), l.tokens⟩
    else (endWord? l.tokens cs).bind fun tokens => stepBetween? tokens c
  | .literal pieces =>
    if c = '"' then some ⟨.between, literalToken pieces :: l.tokens⟩
    else if c = '\\' then some ⟨.escape pieces, l.tokens⟩
    else if c.toNat < 0x20 then none
    else some ⟨.literal (.char c :: pieces), l.tokens⟩
  | .escape pieces =>
    if c = 'u' then some ⟨.unicode pieces 0 0, l.tokens⟩
    else (escaped? c).map fun c => ⟨.literal (.char c :: pieces), l.tokens⟩
  | .unicode pieces count value =>
    (hexValue? c).map fun digit =>
      let value := 16 * value + digit
      if count = 3 then ⟨.literal (unicodePiece value :: pieces), l.tokens⟩
      else ⟨.unicode pieces (count + 1) value, l.tokens⟩

/-- Takes all characters of a text. -/
def run? (l : Lexer) : List Char → Option Lexer
  | [] => some l
  | c :: rest =>
    match l.step? c with
    | some l => run? l rest
    | none => none

/-- The tokens of the text that has been read, in order, if it may end here. -/
def finish? (l : Lexer) : Option (List Token) :=
  match l.mode with
  | .between => some l.tokens.reverse
  | .word cs => (endWord? l.tokens cs).map List.reverse
  | _ => none

end Lexer

/-- The tokens of a text. -/
def tokens? (s : List Char) : Option (List Token) := (Lexer.initial.run? s).bind Lexer.finish?

end CronCalendar.Json
