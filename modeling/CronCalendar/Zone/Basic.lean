import CronCalendar.Calendar.WallTime

/-!
# Time zones

A time zone is a table: the local type that holds at first, and the seconds at which another
local type takes over. The table is complete, so the last local type holds for ever.

`typeAt` reads the table from instants to offsets. `secondsShowing` goes the other way: the
seconds at which the local clock shows a wall time, of which there are none inside a gap
(clocks put forward) and two inside an overlap (clocks put back).
-/

namespace CronCalendar
set_option autoImplicit false

/-- What a zone prescribes for a while: the offset in seconds east of UTC, and its name. -/
structure LocalType where
  offset : Int
  abbreviation : String
  deriving DecidableEq, Repr

/-- From the second `since` on, included, the local type `type` holds. -/
structure Transition where
  since : Int
  type : LocalType
  deriving DecidableEq, Repr

/-- Every transition comes after the one before it. -/
def Ascending : List Transition → Prop
  | [] => True
  | [_] => True
  | a :: b :: rest => a.since < b.since ∧ Ascending (b :: rest)

instance decidableAscending : (ts : List Transition) → Decidable (Ascending ts)
  | [] => isTrue trivial
  | [_] => isTrue trivial
  | a :: b :: rest =>
    match decidableAscending (b :: rest) with
    | isTrue h =>
      if h' : a.since < b.since then isTrue ⟨h', h⟩ else isFalse fun both => h' both.1
    | isFalse h => isFalse fun both => h both.2

/-- A time zone, by its name and the table of its transitions. -/
structure Zone where
  name : String
  initial : LocalType
  transitions : List Transition
  ascending : Ascending transitions
  deriving DecidableEq

namespace Zone

/-- A zone in which one local type holds for ever. -/
def fixed (name : String) (type : LocalType) : Zone := ⟨name, type, [], trivial⟩

/-- Coordinated universal time. -/
def utc : Zone := fixed "UTC" ⟨0, "UTC"⟩

/-- The transitions of a table whose rows hold a second and the number of a local type. -/
def rowTransitions (types : List LocalType) (rows : List (Int × Nat)) : List Transition :=
  rows.map fun row => ⟨row.1, types.getD row.2 ⟨0, ""⟩⟩

/-- A zone from a table. The first of the local types holds before the first row. -/
def ofTable (name : String) (types : List LocalType) (rows : List (Int × Nat))
    (ascending : Ascending (rowTransitions types rows)) : Zone :=
  ⟨name, types.headD ⟨0, ""⟩, rowTransitions types rows, ascending⟩

/-- The same zone under another name. -/
def renamed (z : Zone) (name : String) : Zone := { z with name := name }

/-- The local type in force at second `t`, where `current` holds until the first transition. -/
def typeFrom (current : LocalType) : List Transition → Int → LocalType
  | [], _ => current
  | next :: rest, t => if next.since ≤ t then typeFrom next.type rest t else current

/-- The local type in force at a second. -/
def typeAt (z : Zone) (t : Int) : LocalType := typeFrom z.initial z.transitions t

/-- The offset in force at a second, in seconds east of UTC. -/
def offsetAt (z : Zone) (t : Int) : Int := (z.typeAt t).offset

/-- What the local clock shows at an instant. -/
def wallAt (z : Zone) (t : Instant) : WallTime := ⟨t.seconds + z.offsetAt t.seconds⟩

/-- Whether a period that starts at `since`, if it has a start, has begun at `t`. -/
def hasBegun (since : Option Int) (t : Int) : Bool :=
  match since with
  | none => true
  | some s => decide (s ≤ t)

/-- The seconds, from the period that starts at `since` on, at which the clock shows `w`. -/
def secondsFrom (since : Option Int) (current : LocalType) : List Transition → WallTime → List Int
  | [], w =>
    let t := w.count - current.offset
    if hasBegun since t then [t] else []
  | next :: rest, w =>
    let t := w.count - current.offset
    let later := secondsFrom (some next.since) next.type rest w
    if hasBegun since t && decide (t < next.since) then t :: later else later

/-- The seconds at which the local clock shows a wall time, in ascending order. -/
def secondsShowing (z : Zone) (w : WallTime) : List Int :=
  secondsFrom none z.initial z.transitions w

/-- The first instant at which the local clock shows a wall time, if there is one. -/
def firstShowing? (z : Zone) (w : WallTime) : Option Instant :=
  (z.secondsShowing w).head?.bind Instant.ofSeconds?

/-- Whether the local clock never shows a wall time. -/
def isInGap (z : Zone) (w : WallTime) : Bool := (z.firstShowing? w).isNone

/-- The instant of a wall time inside a gap. It is read with the offset in force one day earlier,
which is the offset before the gap, and so comes as long after the gap began as the wall time
comes behind the last one shown. -/
def gapInstant? (z : Zone) (w : WallTime) : Option Instant := do
  let probe ← Instant.ofSeconds? (w.count - secondsPerDay)
  Instant.ofSeconds? (w.count - z.offsetAt probe.seconds)

/-- The instant of a wall time: the first at which it is shown, or the one `gapInstant?` moves it
to if it is never shown. -/
def resolve? (z : Zone) (w : WallTime) : Option Instant :=
  match z.firstShowing? w with
  | some t => some t
  | none => z.gapInstant? w

/-- The instant at which a day starts. -/
def startOfDay? (z : Zone) (dayNumber : Int) : Option Instant :=
  z.resolve? (WallTime.ofDay dayNumber 0)

end Zone

end CronCalendar
