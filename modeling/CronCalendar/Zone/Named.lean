import CronCalendar.Zone.Table.Africa
import CronCalendar.Zone.Table.America
import CronCalendar.Zone.Table.Asia
import CronCalendar.Zone.Table.Europe
import CronCalendar.Zone.Table.Pacific

/-!
# Zones by name

`named?` finds a zone by its IANA name. Names are matched exactly: case counts, and so do
blanks.
-/

namespace CronCalendar.Zone
set_option autoImplicit false

/-- The zones without transitions. -/
def fixedZones : List Zone :=
  [utc, fixed "Zulu" ⟨0, "UTC"⟩, fixed "GMT" ⟨0, "GMT"⟩, fixed "Etc/GMT+5" ⟨-18000, "-05"⟩,
    fixed "Etc/GMT-14" ⟨50400, "+14"⟩]

/-- The zones with a table of transitions. -/
def tableZones : List Zone :=
  [cairo, casablanca, monrovia, est, newYork, toronto, stJohns, buenosAires, saoPaulo, havana,
    scoresbysund, tokyo, kolkata, kathmandu, tehran, beirut, manila, london, dublin, berlin, kyiv,
    lordHowe, troll, apia, kwajalein, chatham]

/-- The second names of zones. -/
def linkedZones : List Zone :=
  [newYork.renamed "US/Eastern", newYork.renamed "EST5EDT", kyiv.renamed "Europe/Kiev"]

/-- Every zone that has a name here. -/
def all : List Zone := fixedZones ++ tableZones ++ linkedZones

/-- The zone with a name, if there is one. -/
def named? (name : String) : Option Zone := all.find? fun z => z.name == name

end CronCalendar.Zone
