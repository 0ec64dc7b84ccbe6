import CronCalendar.Files.Basic

/-!
# File trees

A file tree is a value that keeps files and directories by the names along their paths. It gives
the file operations a meaning that can be computed with: `Files (StateM Tree)`.
-/

namespace CronCalendar
set_option autoImplicit false

/-- What stands at a path. -/
inductive Entry where
  | file (text : String)
  | directory
  deriving DecidableEq, Repr

/-- Files and directories by their places, which are lists of names from the outside in. Of two
entries for a place the first counts. The empty place is the directory they all stand in. -/
structure Tree where
  entries : List (List String × Entry)
  deriving DecidableEq, Repr

namespace Tree

/-- The tree without files and directories. -/
def empty : Tree := ⟨[]⟩

/-- What stands at a place. The root and the directories around the tree are always there. -/
def entry? (t : Tree) (place : List String) : Option Entry :=
  if place = ["/"] ∨ place.all (· = "..") then some .directory else t.entries.lookup place

/-- The tree with an entry at a place, instead of any entry there. -/
def put (t : Tree) (place : List String) (e : Entry) : Tree := ⟨(place, e) :: t.entries⟩

/-- The tree without the entry at a place. -/
def erase (t : Tree) (place : List String) : Tree := ⟨t.entries.filter fun p => p.1 != place⟩

/-- The place to which names lead from the directory at a place, through directories only. -/
def descend (t : Tree) (place : List String) : List String → Except FileError (List String)
  | [] => .ok place
  | name :: rest =>
    if Path.isLong name then .error .nameTooLong
    else
      let next := Path.step place name
      match t.entry? next with
      | some .directory => descend t next rest
      | some (.file _) => .error .notDirectory
      | none => .error .notFound

/-- Makes the directories that are missing along names from a place. A file in the way is found
in two manners: on the way to what lies behind it, or as what is in place of a directory; the
latter once a directory was made, since each of those that follow is then made by itself. What
was made stays if a later step fails. -/
def makeAlong (made : Bool) (t : Tree) (place : List String) :
    List String → Except FileError Unit × Tree
  | [] => (.ok (), t)
  | name :: rest =>
    if Path.isLong name then (.error .nameTooLong, t)
    else
      let next := Path.step place name
      match t.entry? next with
      | some .directory => makeAlong made t next rest
      | some (.file _) =>
        (.error (if made || rest.isEmpty then .alreadyExists else .notDirectory), t)
      | none => makeAlong true (t.put next .directory) next rest

/-- Makes the directories that a path to a file runs through, where they are missing. -/
def makeParents (path : String) : StateM Tree (Except FileError Unit) := fun t =>
  let parent := Path.parent path
  if parent = "" then (.ok (), t)
  else
    match Path.fault? parent with
    | some e => (.error e, t)
    | none => t.makeAlong false [] (Path.parts parent)

/-- The place that a path leads to, whether anything stands there or not. -/
def locate (t : Tree) (path : String) : Except FileError (List String) :=
  match Path.fault? path with
  | some e => .error e
  | none =>
    let names := Path.parts path
    (t.descend [] names.dropLast).map fun place => names.getLast?.elim place (Path.step place)

/-- Whether the name of a place is too long. -/
def isLongPlace (place : List String) : Bool := place.getLast?.any Path.isLong

/-- What stands at a path, or why nothing can be found there. A path that ends in a slash or in a
dot leads to directories only. -/
def find (t : Tree) (path : String) : Except FileError Entry := do
  let place ← t.locate path
  if isLongPlace place then throw .nameTooLong
  match t.entry? place with
  | some .directory => pure .directory
  | some (.file text) =>
    if Path.endsInSlash path || Path.endsInDot path then throw .notDirectory
    pure (.file text)
  | none => throw .notFound

/-- Whether anything stands at a path. -/
def present (t : Tree) (path : String) : Bool := (t.find path).isOk

/-- The text of a file. -/
def read (t : Tree) (path : String) : Except FileError String := do
  match ← t.find path with
  | .file text => pure text
  | .directory => throw .isDirectory

/-- The tree with the text of a file written. -/
def write (t : Tree) (path text : String) : Except FileError Tree := do
  let place ← t.locate path
  match t.entry? place with
  | some .directory => throw .isDirectory
  | e =>
    if Path.endsInSlash path && !Path.endsInDot path then throw .isDirectory
    if isLongPlace place then throw .nameTooLong
    if Path.endsInDot path then throw (if e.isSome then .notDirectory else .notFound)
    pure (t.put place (.file text))

instance : Files (StateM Tree) where
  present path := fun t => (t.present path, t)
  read path := fun t => (t.read path, t)
  makeParents := makeParents
  write path text := fun t =>
    match t.write path text with
    | .ok t' => (.ok (), t')
    | .error e => (.error e, t)

end Tree

end CronCalendar
