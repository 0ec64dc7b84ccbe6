import CronCalendar.Random.ChaCha
import CronCalendar.Schedule.NextRun

/-!
# Validation

A field that matches nothing is no error for a schedule, which then never runs. The checks here
tell a writer of schedules about it. A random field is always accepted. The functions that find a
time zone by its name are told how to look it up.
-/

namespace CronCalendar
set_option autoImplicit false

open Field (Kind)

/-- Checks that a name is the name of a time zone. -/
def validateZoneName (name : String) (lookup : String → Option Zone) : Except Error Unit :=
  match lookup name with
  | some _ => .ok ()
  | none => .error (.notZoneName name)

/-- The time zone with a name. -/
def zoneNamed (name : String) (lookup : String → Option Zone) : Except Error Zone :=
  match lookup name with
  | some z => .ok z
  | none => .error (.unknownZone name)

/-- Checks that the text of a field matches something. -/
def validateField (kind : Kind) (text : String) : Except Error Unit :=
  if Field.isRandom text || !(kind.evaluate (.ofText text)).isEmpty then .ok ()
  else .error (.matchesNothing kind text)

/-- Checks the words of fields, up to the first that matches nothing. -/
def validateFields : List (Kind × String) → Except Error Unit
  | [] => .ok ()
  | (kind, text) :: rest =>
    match validateField kind text with
    | .ok () => validateFields rest
    | .error e => .error e

/-- Checks that a schedule line has five words and that each matches something. -/
def validateLine (line : String) : Except Error Unit :=
  let words := Schedule.lineWords line
  if words.length = Kind.all.length then validateFields (Kind.all.zip words)
  else .error (.wordCount words.length)

/-- Checks that a schedule line is valid and that its fields ever coincide. Random fields are
drawn from the seed 0. -/
def checkLine (line : String) : Except Error String := do
  validateLine line
  let (s, _) ← Schedule.ofLine? "check" line (Random.ChaCha.ofSeed 0)
  if isNever (s.nextRun Zone.utc Instant.epoch) then throw (.neverFires line)
  pure ("'" ++ line ++ "' OK")

/-- The instant of a timestamp given as a starting point. -/
def startingPoint (text : String) : Except Error Instant :=
  match Timestamp.read? text.toList with
  | some t => .ok t
  | none => .error (.notTimestamp text)

end CronCalendar
