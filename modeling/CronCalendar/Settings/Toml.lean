import CronCalendar.Settings.Basic
import CronCalendar.Toml.Reader
import CronCalendar.Toml.Writer

/-!
# Settings as TOML

A configuration file holds the settings as a TOML document. Written out, every setting is there,
each task has a table of its own, and a table without entries is only written for a map that is
empty.
-/

namespace CronCalendar.Settings
set_option autoImplicit false

/-- Reads settings from a TOML document, where an empty table stands for no value. -/
def ofToml? (text : String) : Option Settings :=
  (Toml.parse? text).bind (ofDocument? Json.isEmptyObject)

/-- The tables of the tasks. -/
def taskTables (s : Settings) : List (List String × List (String × Json)) :=
  if s.tasks.isEmpty then [(["tasks"], [])]
  else s.tasks.entries.map fun (id, t) => (["tasks", id], taskEntries t)

/-- Settings as a TOML document, with everything written out. -/
def toToml (s : Settings) : String :=
  Toml.documentText
    ([(["scheduler"], s.schedulerEntries), (["logging"], s.loggingEntries)] ++ s.taskTables ++
      [(["components"], s.components.entries.map fun (name, b) => (name, .bool b))])

end CronCalendar.Settings
