import CronCalendar.Json.Basic

/-!
# TOML tables

The tables of a TOML document while it is read. A table can be spelled out once by its header,
come about as a step on the way to another header, or be made by a dotted key; what may still be
added to it depends on which of these it was.
-/

namespace CronCalendar.Toml
set_option autoImplicit false

/-- What a table of a document came about by. -/
inductive Origin where
  /-- It is a step on the way to the table of a header. -/
  | implied
  /-- It has a header of its own. -/
  | headed
  /-- It is a step on the way to the value of a dotted key. -/
  | dotted
  deriving DecidableEq, Repr

/-- A value or a table of a document. -/
inductive Node where
  | value (j : Json)
  | table (origin : Origin) (children : List (String × Node))

/-- The values and tables of a table by their keys. -/
abbrev Children := List (String × Node)

/-- The children with a node at a key, in place of any node there. -/
def setChild (key : String) (n : Node) : Children → Children
  | [] => [(key, n)]
  | p :: rest => if p.1 = key then (key, n) :: rest else p :: setChild key n rest

/-- The children behind a header that names a table by the keys that lead to it. -/
def openTable? : List String → Children → Option Children
  | [], _ => none
  | [key], children =>
    match children.lookup key with
    | none => some (setChild key (.table .headed []) children)
    | some (.table .implied inner) => some (setChild key (.table .headed inner) children)
    | some _ => none
  | key :: keys, children =>
    match children.lookup key with
    | none => (openTable? keys []).map fun inner => setChild key (.table .implied inner) children
    | some (.table origin inner) =>
      (openTable? keys inner).map fun inner => setChild key (.table origin inner) children
    | some (.value _) => none

/-- The children behind a value for a key, dotted or not. -/
def assign? (j : Json) : List String → Children → Option Children
  | [], _ => none
  | [key], children =>
    match children.lookup key with
    | none => some (setChild key (.value j) children)
    | some _ => none
  | key :: keys, children =>
    match children.lookup key with
    | none => (assign? j keys []).map fun inner => setChild key (.table .dotted inner) children
    | some (.table .dotted inner) =>
      (assign? j keys inner).map fun inner => setChild key (.table .dotted inner) children
    | some _ => none

/-- The children behind a value for a key in the table that some keys lead to. -/
def assignIn? (j : Json) (keys : List String) : List String → Children → Option Children
  | [], children => assign? j keys children
  | step :: steps, children =>
    match children.lookup step with
    | some (.table origin inner) =>
      (assignIn? j keys steps inner).map fun inner => setChild step (.table origin inner) children
    | _ => none

mutual

/-- A node as a document value. -/
def Node.toJson : Node → Json
  | .value j => j
  | .table _ children => .object (membersOf children)

/-- The members of the object that stands for a table. -/
def membersOf : Children → List (Option String × Json)
  | [] => []
  | (key, n) :: rest => (some key, n.toJson) :: membersOf rest

end

end CronCalendar.Toml
