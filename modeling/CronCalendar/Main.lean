import CronCalendar.CommandLine.Report
import Std.Time.DateTime.Timestamp

/-!
# The program

The command line on the files of the machine, with its clock and its environment.
-/

namespace CronCalendar.CommandLine
set_option autoImplicit false

/-- The cause of a failed file operation. -/
def fileErrorOf : IO.Error → FileError
  | .noFileOrDirectory _ _ _ => .notFound
  | .alreadyExists _ _ _ => .alreadyExists
  | .inappropriateType _ 20 _ => .notDirectory
  | .inappropriateType _ 21 _ => .isDirectory
  | .invalidArgument _ 36 _ => .nameTooLong
  | e => .other e.toString

/-- Runs a file operation at a path that can be followed. -/
def attempt {α : Type} (path : String) (act : String → IO α) : IO (Except FileError α) := do
  match Path.fault? path with
  | some e => pure (.error e)
  | none =>
    match ← (act path).toBaseIO with
    | .ok a => pure (.ok a)
    | .error e => pure (.error (fileErrorOf e))

instance : Files IO where
  present path := (System.mkFilePath [path]).pathExists
  read path := attempt path fun path => IO.FS.readFile path
  makeParents path :=
    if Path.parent path = "" then pure (.ok ())
    else attempt (Path.parent path) fun path => IO.FS.createDirAll path
  write path text := attempt path fun path => IO.FS.writeFile path text

/-- The instant that the clock of the machine shows. -/
def currentInstant : IO Instant := do
  let t ← Std.Time.Timestamp.now
  pure ((Instant.ofSeconds? t.toSecondsSinceUnixEpoch.val).getD Instant.epoch)

end CronCalendar.CommandLine

/-- Runs the command line on the given arguments. -/
def main (arguments : List String) : IO UInt32 := do
  let settingsPath ← IO.getEnv "CK_CONFIG"
  let now ← CronCalendar.CommandLine.currentInstant
  let report ← CronCalendar.CommandLine.run (m := IO) ⟨settingsPath, now⟩ arguments
  IO.print report.output
  IO.eprint report.complaint
  pure (UInt32.ofNat report.code)
