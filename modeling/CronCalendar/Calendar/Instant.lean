/-!
# Instants

An instant is a point of the UTC time line: seconds since 1970-01-01T00:00:00Z and nanoseconds
within the second. Only the instants of the supported years exist, so arithmetic answers `none`
when it leaves them. A clock is known by the instants that it shows.
-/

namespace CronCalendar
set_option autoImplicit false

/-- The nanoseconds of one second. -/
def nanosPerSecond : Nat := 1000000000

theorem zero_lt_nanosPerSecond : 0 < nanosPerSecond := by decide

/-- The seconds of one day. -/
def secondsPerDay : Int := 86400

/-- The second -262143-01-01T00:00:00Z, at which the supported years begin. -/
def firstSecond : Int := -8334601228800

/-- The second +262142-12-31T23:59:59Z, with which the supported years end. -/
def lastSecond : Int := 8210266876799

/-- A point in time within the supported years. -/
structure Instant where
  /-- Whole seconds since 1970-01-01T00:00:00Z. -/
  seconds : Int
  /-- Nanoseconds since the start of that second. -/
  nanos : Nat
  nanos_lt : nanos < nanosPerSecond
  firstSecond_le : firstSecond ≤ seconds
  le_lastSecond : seconds ≤ lastSecond
  deriving DecidableEq

namespace Instant

/-- The instant with the given seconds and nanoseconds, if there is one. -/
def of? (seconds : Int) (nanos : Nat) : Option Instant :=
  if h : nanos < nanosPerSecond ∧ firstSecond ≤ seconds ∧ seconds ≤ lastSecond then
    some ⟨seconds, nanos, h.1, h.2.1, h.2.2⟩
  else none

/-- The instant at the start of a second, if there is one. -/
def ofSeconds? (seconds : Int) : Option Instant := of? seconds 0

/-- The instant 1970-01-01T00:00:00Z. -/
def epoch : Instant := ⟨0, 0, zero_lt_nanosPerSecond, by decide, by decide⟩

/-- The instant a number of seconds later, if there is one. -/
def addSeconds? (t : Instant) (n : Int) : Option Instant := of? (t.seconds + n) t.nanos

/-- `t` comes before `u`. -/
protected def lt (t u : Instant) : Prop :=
  t.seconds < u.seconds ∨ t.seconds = u.seconds ∧ t.nanos < u.nanos

instance : LT Instant := ⟨Instant.lt⟩

instance : LE Instant := ⟨fun t u => ¬ u < t⟩

instance (t u : Instant) : Decidable (t < u) :=
  inferInstanceAs (Decidable (t.seconds < u.seconds ∨ t.seconds = u.seconds ∧ t.nanos < u.nanos))

instance (t u : Instant) : Decidable (t ≤ u) := inferInstanceAs (Decidable (¬ u < t))

theorem of?_eq_some_iff {seconds : Int} {nanos : Nat} {t : Instant} :
    of? seconds nanos = some t ↔ t.seconds = seconds ∧ t.nanos = nanos := by
  unfold of?
  split
  · constructor
    · intro h
      cases h
      exact ⟨rfl, rfl⟩
    · rintro ⟨rfl, rfl⟩
      rfl
  · rename_i h
    constructor
    · intro h'
      cases h'
    · rintro ⟨rfl, rfl⟩
      exact absurd ⟨t.nanos_lt, t.firstSecond_le, t.le_lastSecond⟩ h

end Instant

/-- A clock, by the instants that it shows when it is asked once and again. -/
structure Clock where
  reading : Nat → Instant

namespace Clock

/-- A clock that has stopped. -/
def fixed (t : Instant) : Clock := ⟨fun _ => t⟩

instance : Coe Instant Clock := ⟨fixed⟩

/-- What a clock shows when it is asked next. -/
def now (c : Clock) : Instant := c.reading 0

/-- A clock that has been asked. -/
def asked (c : Clock) : Clock := ⟨fun n => c.reading (n + 1)⟩

end Clock

end CronCalendar
