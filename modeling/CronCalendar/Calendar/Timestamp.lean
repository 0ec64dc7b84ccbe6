import CronCalendar.Calendar.WallTime
import CronCalendar.Text.Blank
import CronCalendar.Text.Decimal

/-!
# Timestamps

The text of instants: a date, a time of day and an offset from UTC, as in
`2024-06-15T14:32:00+02:00`.

* `read?` reads the strict form of RFC 3339.
* `readLenient?` also takes signed and short numbers, blanks between the parts, an offset
  without its colon and `UTC` for a zero offset.
* `text` writes an instant with the digits of the second that it needs; `secondsText` leaves
  the fraction out.
-/

namespace CronCalendar.Timestamp
set_option autoImplicit false

/-- The rest of a text behind a character that has to come first. -/
def expect? (c : Char) : List Char → Option (List Char)
  | d :: rest => if d = c then some rest else none
  | [] => none

/-- The rest of a text behind the character that parts the date from the time: `T`, `t` or one
space. -/
def separator? : List Char → Option (List Char)
  | 'T' :: rest => some rest
  | 't' :: rest => some rest
  | ' ' :: rest => some rest
  | _ => none

/-- The nanoseconds named by the digits behind the decimal point of a second. Digits after the
ninth are dropped. -/
def nanosOf (ds : List Char) : Nat :=
  Decimal.value ((ds ++ List.replicate 9 '0').take 9)

/-- An optional fraction of a second: a point and at least one digit. -/
def fraction? : List Char → Option (Nat × List Char)
  | '.' :: rest =>
    let ds := rest.takeWhile Char.isDigit
    if ds.isEmpty then none else some (nanosOf ds, rest.drop ds.length)
  | s => some (0, s)

/-- The sign of an offset: 1 for east, -1 for west. The minus sign U+2212 is taken too. -/
def sign? : List Char → Option (Int × List Char)
  | '+' :: rest => some (1, rest)
  | '-' :: rest => some (-1, rest)
  | '\u2212' :: rest => some (-1, rest)
  | _ => none

/-- An offset in seconds east of UTC. `colon?` reads what stands between hours and minutes. -/
def offset? (colon? : List Char → Option (List Char)) : List Char → Option (Int × List Char)
  | 'Z' :: rest => some (0, rest)
  | 'z' :: rest => some (0, rest)
  | s => do
    let (sign, s) ← sign? s
    let (hours, s) ← Decimal.read? 2 2 s
    let s ← colon? s
    let (minutes, s) ← Decimal.read? 2 2 s
    if hours < 24 ∧ minutes < 60 then some (sign * (3600 * hours + 60 * minutes : Nat), s) else none

/-- The instant at which a clock with the given offset shows a date and time, if both exist. -/
def instant? (date : Date) (hour minute second nanos : Nat) (offset : Int) : Option Instant :=
  if date.isValid && date.isSupported && decide (hour < 24) && decide (minute < 60) &&
      decide (second < 60) then
    Instant.of? ((WallTime.ofDay date.dayNumber (3600 * hour + 60 * minute + second)).count - offset)
      nanos
  else none

/-- Reads a timestamp in the strict form: four digits for the year and two for each other
number, nothing before and nothing behind. -/
def read? (s : List Char) : Option Instant := do
  let (year, s) ← Decimal.read? 4 4 s
  let s ← expect? '-' s
  let (month, s) ← Decimal.read? 2 2 s
  let s ← expect? '-' s
  let (day, s) ← Decimal.read? 2 2 s
  let s ← separator? s
  let (hour, s) ← Decimal.read? 2 2 s
  let s ← expect? ':' s
  let (minute, s) ← Decimal.read? 2 2 s
  let s ← expect? ':' s
  let (second, s) ← Decimal.read? 2 2 s
  let (nanos, s) ← fraction? s
  let (offset, s) ← offset? (expect? ':') s
  if s.isEmpty then instant? ⟨year, month, day⟩ hour minute second nanos offset else none

/-- A year in the lenient form: at most four digits, or a sign and any number of digits. -/
def lenientYear? (s : List Char) : Option (Int × List Char) :=
  match Text.trimStart s with
  | '-' :: rest => (Decimal.read? 1 rest.length rest).map fun (n, s) => (-(n : Int), s)
  | '+' :: rest => (Decimal.read? 1 rest.length rest).map fun (n, s) => ((n : Int), s)
  | s => (Decimal.read? 1 4 s).map fun (n, s) => ((n : Int), s)

/-- A number of one or two digits, blanks before it aside. -/
def lenientNumber? (s : List Char) : Option (Nat × List Char) :=
  Decimal.read? 1 2 (Text.trimStart s)

/-- A character that has to come next, blanks before it aside. -/
def lenientExpect? (c : Char) (s : List Char) : Option (List Char) :=
  expect? c (Text.trimStart s)

/-- An offset in the lenient form. -/
def lenientOffset? (s : List Char) : Option (Int × List Char) :=
  let s := Text.trimStart s
  if (s.take 3).map Char.toUpper = ['U', 'T', 'C'] then some (0, s.drop 3)
  else offset? (fun s => some (s.dropWhile fun c => c == ':' || Text.isBlank c)) s

/-- Reads a timestamp in the lenient form. -/
def readLenient? (s : List Char) : Option Instant := do
  let (year, s) ← lenientYear? s
  let s ← lenientExpect? '-' s
  let (month, s) ← lenientNumber? s
  let s ← lenientExpect? '-' s
  let (day, s) ← lenientNumber? s
  let s ← separator? s
  let (hour, s) ← lenientNumber? s
  let s ← lenientExpect? ':' s
  let (minute, s) ← lenientNumber? s
  let s ← lenientExpect? ':' s
  let (second, s) ← lenientNumber? s
  let (nanos, s) ← fraction? s
  let (offset, s) ← lenientOffset? s
  if (Text.trimStart s).isEmpty then instant? ⟨year, month, day⟩ hour minute second nanos offset
  else none

/-- A year with at least four digits, and with its sign outside the years 0 to 9999. -/
def yearText (year : Int) : List Char :=
  if year < 0 then '-' :: Decimal.padded 4 year.natAbs
  else if 9999 < year then '+' :: Decimal.padded 4 year.natAbs
  else Decimal.padded 4 year.natAbs

/-- A date as `2024-06-15`. -/
def dateText (d : Date) : List Char :=
  yearText d.year ++ '-' :: Decimal.padded 2 d.month ++ '-' :: Decimal.padded 2 d.day

/-- Hour and minute as `14:32`. -/
def minuteText (w : WallTime) : List Char :=
  Decimal.padded 2 w.hour ++ ':' :: Decimal.padded 2 w.minute

/-- A wall time as `2024-06-15T14:32:00`. -/
def wallText (w : WallTime) : List Char :=
  dateText w.date ++ 'T' :: minuteText w ++ ':' :: Decimal.padded 2 w.second

/-- What a clock in UTC shows at an instant. -/
def utcWall (t : Instant) : WallTime := ⟨t.seconds⟩

/-- An instant in UTC without the fraction of its second, as `2024-06-15T14:32:00Z`. -/
def secondsText (t : Instant) : List Char := wallText (utcWall t) ++ ['Z']

/-- The fraction of a second, with the fewest digits out of 0, 3, 6 and 9 that are exact. -/
def fractionText (nanos : Nat) : List Char :=
  if nanos = 0 then []
  else if nanos % 1000000 = 0 then '.' :: Decimal.padded 3 (nanos / 1000000)
  else if nanos % 1000 = 0 then '.' :: Decimal.padded 6 (nanos / 1000)
  else '.' :: Decimal.padded 9 nanos

/-- An instant in UTC, as `2024-06-15T14:32:00.250Z`. -/
def text (t : Instant) : List Char :=
  wallText (utcWall t) ++ fractionText t.nanos ++ ['Z']

end CronCalendar.Timestamp
