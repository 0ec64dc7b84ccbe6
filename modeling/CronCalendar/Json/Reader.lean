import CronCalendar.Json.Token

/-!
# Reading JSON

The reader takes one token at a time. It keeps what it expects next and a frame for each array
and object that has been opened and not closed, so that values nest to any depth.
-/

namespace CronCalendar.Json
set_option autoImplicit false

/-- The members of an object that have been read, the latest first. -/
abbrev Members := List (Option String × Json)

/-- An open array or object, with what has been read of it, the latest first. -/
inductive Frame where
  | array (items : List Json)
  /-- The value of `key` comes next. -/
  | object (members : Members) (key : Option String)

/-- What the reader expects next, with the frames that are open, the innermost first. -/
inductive Reader where
  /-- A value. -/
  | anyValue (frames : List Frame)
  /-- The first item of an array, or its end. -/
  | firstItem (frames : List Frame)
  /-- A comma or the end of an array. -/
  | moreItems (items : List Json) (frames : List Frame)
  /-- The first key of an object, or its end. -/
  | firstKey (frames : List Frame)
  /-- A key of an object. -/
  | nextKey (members : Members) (frames : List Frame)
  /-- The colon behind a key. -/
  | keyColon (members : Members) (key : Option String) (frames : List Frame)
  /-- A comma or the end of an object. -/
  | moreMembers (members : Members) (frames : List Frame)
  /-- Nothing: the value is complete. -/
  | done (value : Json)

namespace Reader

/-- What is expected behind a complete value. -/
def complete (value : Json) : List Frame → Reader
  | [] => .done value
  | .array items :: frames => .moreItems (value :: items) frames
  | .object members key :: frames => .moreMembers ((key, value) :: members) frames

/-- Takes a token where a value is expected. -/
def stepValue? (frames : List Frame) : Token → Option Reader
  | .scalar value => some (complete value frames)
  | .string content => some (complete (.string content) frames)
  | .openArray => some (.firstItem frames)
  | .openObject => some (.firstKey frames)
  | _ => none

/-- Takes one token. -/
def step? : Reader → Token → Option Reader
  | .anyValue frames, token => stepValue? frames token
  | .firstItem frames, .closeArray => some (complete (.array []) frames)
  | .firstItem frames, token => stepValue? (.array [] :: frames) token
  | .moreItems items frames, .comma => some (.anyValue (.array items :: frames))
  | .moreItems items frames, .closeArray => some (complete (.array items.reverse) frames)
  | .firstKey frames, .closeObject => some (complete (.object []) frames)
  | .firstKey frames, .string key => some (.keyColon [] key frames)
  | .nextKey members frames, .string key => some (.keyColon members key frames)
  | .keyColon members key frames, .colon => some (.anyValue (.object members key :: frames))
  | .moreMembers members frames, .comma => some (.nextKey members frames)
  | .moreMembers members frames, .closeObject => some (complete (.object members.reverse) frames)
  | _, _ => none

/-- Takes all of some tokens. -/
def run? (r : Reader) : List Token → Option Reader
  | [] => some r
  | token :: rest =>
    match r.step? token with
    | some r => run? r rest
    | none => none

end Reader

/-- The value that some tokens make up. -/
def ofTokens? (ts : List Token) : Option Json :=
  match (Reader.anyValue []).run? ts with
  | some (.done value) => some value
  | _ => none

/-- Reads a JSON text. -/
def parse? (s : List Char) : Option Json := (tokens? s).bind ofTokens?

end CronCalendar.Json
