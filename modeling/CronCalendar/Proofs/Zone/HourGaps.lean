import CronCalendar.Proofs.Zone.Stretches

/-!
# Gaps of an hour

In a zone whose gaps are an hour wide and begin at a full hour, a full hour that no instant shows is the
reading at which a gap begins, and is resolved to the instant of the change (`exists_gap`). On a day on which
clocks are put back at full hours only, the clock goes on undisturbed to the end of each hour
(`wallAt_in_hour`).
-/

namespace CronCalendar.Zone
set_option autoImplicit false

/-- Where the clock is put forward, it is at a full hour and by an hour. -/
def GapsOfAnHour (z : Zone) : Prop :=
  ∀ x ∈ z.transitions, z.offsetAt (x.since - 1) < z.offsetAt x.since →
    z.offsetAt x.since = z.offsetAt (x.since - 1) + 3600 ∧
      (x.since + z.offsetAt (x.since - 1)) % 3600 = 0

/-- Where the clock is put back in the course of a day, it is at a full hour. -/
def SetBackAtFullHours (z : Zone) (day : Int) : Prop :=
  ∀ x ∈ z.transitions, z.offsetAt x.since < z.offsetAt (x.since - 1) →
    86400 * day < x.since + z.offsetAt (x.since - 1) →
    x.since + z.offsetAt (x.since - 1) < 86400 * (day + 1) →
      (x.since + z.offsetAt (x.since - 1)) % 3600 = 0

theorem gapsOfAnHour_of_changes {z : Zone}
    (all : ∀ c ∈ changesFrom z.initial z.transitions, c.2.1 < c.2.2 →
      c.2.2 = c.2.1 + 3600 ∧ (c.1 + c.2.1) % 3600 = 0) : z.GapsOfAnHour :=
  forall_of_changes (p := fun since old new => old < new → new = old + 3600 ∧ (since + old) % 3600 = 0)
    all

theorem setBackAtFullHours_of_changes {z : Zone} {day : Int}
    (all : ∀ c ∈ changesFrom z.initial z.transitions, c.2.2 < c.2.1 → 86400 * day < c.1 + c.2.1 →
      c.1 + c.2.1 < 86400 * (day + 1) → (c.1 + c.2.1) % 3600 = 0) : z.SetBackAtFullHours day :=
  forall_of_changes (p := fun since old new => new < old → 86400 * day < since + old →
    since + old < 86400 * (day + 1) → (since + old) % 3600 = 0) all

variable {z : Zone} (rare : z.RarelyChanged)
include rare

/-- Within an hour of a day, the clock goes on with the same offset. -/
theorem wallAt_in_hour (gaps : z.GapsOfAnHour) {day : Int} (setbacks : z.SetBackAtFullHours day)
    {q u : Instant} (full : (z.wallAt q).count % 3600 = 0) (on : (z.wallAt q).dayNumber = day)
    {k : Nat} (short : k < 60) (place : u.seconds = q.seconds + 60 * (k : Int)) :
    (z.wallAt u).count = (z.wallAt q).count + 60 * (k : Int) := by
  have count : (z.wallAt q).count = q.seconds + z.offsetAt q.seconds := rfl
  have count' : (z.wallAt u).count = u.seconds + z.offsetAt u.seconds := rfl
  have number : (z.wallAt q).dayNumber = (z.wallAt q).count / 86400 := rfl
  have same : z.offsetAt q.seconds = z.offsetAt u.seconds := by
    apply Decidable.byContradiction
    intro change
    obtain ⟨x, member, after, before⟩ := exists_transition (by omega) change
    have old := offsetAt_before rare member after (by omega)
    have new := offsetAt_behind rare member before (by omega)
    rcases Int.lt_trichotomy (z.offsetAt (x.since - 1)) (z.offsetAt x.since) with forward | equal | back
    · have := (gaps x member forward).2
      omega
    · omega
    · have := setbacks x member back (by omega) (by omega)
      omega
  omega

/-- A full hour in a gap is the reading at which a change begins, and is moved to that change. -/
theorem exists_gap (gaps : z.GapsOfAnHour) {w : WallTime} (full : w.count % 3600 = 0)
    (gap : z.isInGap w = true) (first : firstSecond + 86400 ≤ w.count)
    (last : w.count + 86400 ≤ lastSecond) :
    ∃ x ∈ z.transitions, ∃ u : Instant, x.since + z.offsetAt (x.since - 1) = w.count ∧
      z.offsetAt x.since = z.offsetAt (x.since - 1) + 3600 ∧ z.resolve? w = some u ∧
        u.seconds = x.since ∧ u.nanos = 0 := by
  obtain ⟨x, member, skips⟩ := exists_skips rare gap first last
  obtain ⟨u, resolved, nanos, seconds⟩ := Skips.resolve rare member skips first last
  obtain ⟨from_le, lt⟩ := skips
  obtain ⟨wide, hour⟩ := gaps x member (by omega)
  exact ⟨x, member, u, by omega, wide, resolved, by omega, nanos⟩

end CronCalendar.Zone
