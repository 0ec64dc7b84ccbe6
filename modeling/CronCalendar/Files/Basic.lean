/-!
# Files

What can be done with files, whatever keeps them: `Files m` names the operations of a monad, and
`FileError` the causes for which they fail. Paths are texts; `Path.parts` cuts one into the names
along it.
-/

namespace CronCalendar
set_option autoImplicit false

/-- Why a file operation failed. -/
inductive FileError where
  | notFound
  | alreadyExists
  | notDirectory
  | isDirectory
  /-- A name along the path, or the path as a whole, is longer than a path may be. -/
  | nameTooLong
  /-- The path holds the character that ends a path. -/
  | nulInPath
  | other (description : String)
  deriving DecidableEq, Repr

/-- The description of a failure, with the number of its system error if it has one. -/
def FileError.message : FileError → String
  | notFound => "No such file or directory (os error 2)"
  | alreadyExists => "File exists (os error 17)"
  | notDirectory => "Not a directory (os error 20)"
  | isDirectory => "Is a directory (os error 21)"
  | nameTooLong => "File name too long (os error 36)"
  | nulInPath => "file name contained an unexpected NUL byte"
  | other description => description

/-- Operations on files. -/
class Files (m : Type → Type) where
  /-- Whether there is a file or directory at a path. -/
  present : String → m Bool
  /-- The text of a file. -/
  read : String → m (Except FileError String)
  /-- Creates the directories that a path to a file runs through, where they are missing. -/
  makeParents : String → m (Except FileError Unit)
  /-- Writes the text of a file, in place of any text it has. -/
  write : String → String → m (Except FileError Unit)

namespace Path

/-- The characters of a text between slashes. -/
def split : List Char → List (List Char)
  | [] => [[]]
  | c :: rest =>
    if c = '/' then [] :: split rest
    else
      match split rest with
      | [] => [[c]]
      | part :: parts => (c :: part) :: parts

/-- The names along a path, from the outside in. A path that starts with a slash starts with the
name of the root. A double dot is kept as a name, since what it leads back from has to be there. -/
def parts (path : String) : List String :=
  let names := ((split path.toList).map String.ofList).filter fun name => name ≠ "" ∧ name ≠ "."
  if path.toList.head? = some '/' then "/" :: names else names

/-- The place of the directory around the one at a place. Outside of the outermost directory of the
tree lie unnamed ones, and nothing lies outside of the root. -/
def up (place : List String) : List String :=
  if place = ["/"] then place
  else if place.all (· = "..") then place ++ [".."]
  else place.dropLast

/-- The place to which a name leads from the directory at a place. -/
def step (place : List String) (name : String) : List String :=
  if name = ".." then up place else place ++ [name]

/-- Whether a path ends in a slash. -/
def endsInSlash (path : String) : Bool := path.toList.getLast? = some '/'

/-- Whether the last name along a path is a single dot. -/
def endsInDot (path : String) : Bool :=
  ((split path.toList).filter (· ≠ [])).getLast? = some ['.']

/-- The pieces between slashes from the innermost out, without the empty ones and the single dots
that come first. -/
def dropIdle (pieces : List (List Char)) : List (List Char) :=
  pieces.dropWhile fun piece => piece = [] || piece = ['.']

/-- The path of the directory that the last name along a path stands in; empty if the path runs
through no directory. -/
def parent (path : String) : String :=
  let outer := dropIdle ((dropIdle (split path.toList).reverse).drop 1)
  String.ofList (['/'].intercalate outer.reverse)

/-- The greatest number of bytes in a name. -/
def nameLimit : Nat := 255

/-- The greatest number of bytes in a path. -/
def pathLimit : Nat := 4095

/-- Whether a name along a path is too long. -/
def isLong (name : String) : Bool := nameLimit < name.utf8ByteSize

/-- Why a path as a whole cannot be followed, if it cannot. -/
def fault? (path : String) : Option FileError :=
  if path.toList.contains '\x00' then some .nulInPath
  else if path = "" then some .notFound
  else if pathLimit < path.utf8ByteSize then some .nameTooLong
  else none

end Path

end CronCalendar
