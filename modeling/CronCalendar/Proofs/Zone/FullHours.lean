import CronCalendar.Proofs.Zone.HourGaps

/-!
# Zones that are changed at full hours

In a zone whose offsets are whole minutes and whose clock is changed when it shows a full hour, no change
falls into an hour that the clock shows (`ChangedOnTheHour.offsetAt_in_hour`), let alone into a minute
(`ChangedOnTheHour.minuteStart_eq`), however far the clock is put forward or back. Minutes of such a zone
are minutes everywhere.
-/

namespace CronCalendar.Zone
set_option autoImplicit false

/-- The offsets are whole minutes and stay below a day, and the clock is changed at full hours, by what it
shows before. -/
structure ChangedOnTheHour (z : Zone) : Prop where
  bounds : ∀ t, -86400 < z.offsetAt t ∧ z.offsetAt t < 86400
  minutes : ∀ t, z.offsetAt t % 60 = 0
  hours : ∀ x ∈ z.transitions, z.offsetAt (x.since - 1) ≠ z.offsetAt x.since →
    (x.since + z.offsetAt (x.since - 1)) % 3600 = 0

/-- At some time in any seven years, the clock goes on for an hour without a change. -/
def Pauses (z : Zone) : Prop :=
  ∀ t, ∃ u, t ≤ u ∧ u + 3600 ≤ t + 7 * 365 * 86400 ∧
    ∀ v, u ≤ v → v < u + 3600 → z.offsetAt v = z.offsetAt u

variable {z : Zone}

theorem changedOnTheHour_of_changes
    (initial : (-86400 < z.initial.offset ∧ z.initial.offset < 86400) ∧ z.initial.offset % 60 = 0)
    (types : ∀ a ∈ z.transitions,
      (-86400 < a.type.offset ∧ a.type.offset < 86400) ∧ a.type.offset % 60 = 0)
    (all : ∀ c ∈ changesFrom z.initial z.transitions, c.2.1 ≠ c.2.2 → (c.1 + c.2.1) % 3600 = 0) :
    z.ChangedOnTheHour where
  bounds := forall_offsetAt (p := fun o => -86400 < o ∧ o < 86400) initial.1
    fun a member => (types a member).1
  minutes := forall_offsetAt (p := fun o => o % 60 = 0) initial.2 fun a member => (types a member).2
  hours := forall_of_changes (p := fun since old new => old ≠ new → (since + old) % 3600 = 0) all

/-- A zone that is rarely changed goes on for an hour at once, or behind the next change. -/
theorem pauses_of_rarelyChanged (rare : z.RarelyChanged) : z.Pauses := by
  intro t
  by_cases change : ∃ a ∈ z.transitions, t < a.since ∧ a.since ≤ t + 3600
  · obtain ⟨a, member, after, before⟩ := change
    refine ⟨a.since, by omega, by omega, fun v from_le lt => ?_⟩
    exact offsetAt_behind rare member from_le (by omega)
  · refine ⟨t, Int.le_refl t, by omega, fun v from_le lt => ?_⟩
    symm
    apply offsetAt_eq from_le
    intro a member
    by_cases begun : a.since ≤ t
    · exact Or.inl begun
    · exact Or.inr (Int.not_le.1 fun le => change ⟨a, member, by omega, by omega⟩)

section
variable (onHour : z.ChangedOnTheHour)
include onHour

/-- Up to the next full hour that the clock would show, it is not changed. -/
theorem ChangedOnTheHour.offsetAt_in_hour {t u : Int} (le : t ≤ u)
    (same : (u + z.offsetAt t) / 3600 = (t + z.offsetAt t) / 3600) : z.offsetAt u = z.offsetAt t := by
  obtain ⟨k, rfl⟩ := Int.le.dest le
  induction k with
  | zero => rw [Int.natCast_zero, Int.add_zero]
  | succ k ih =>
    have before := ih (by omega) (by omega)
    apply Decidable.byContradiction
    intro change
    obtain ⟨a, member, after, here⟩ := exists_transition (z := z) (t := t + k) (u := t + (k + 1 : Nat))
      (by omega) (by rw [before]; exact Ne.symm change)
    have place : a.since = t + (k + 1 : Nat) := by omega
    have old : a.since - 1 = t + k := by omega
    have full := onHour.hours a member
    rw [old, place, before] at full
    have := full (Ne.symm change)
    omega

/-- Minutes begin by the clock when they do everywhere. -/
theorem ChangedOnTheHour.minuteStart_eq (v : Instant) : z.minuteStart v = 60 * (v.seconds / 60) := by
  have second := (z.wallAt v).second_eq
  have count : (z.wallAt v).count = v.seconds + z.offsetAt v.seconds := rfl
  have whole := onHour.minutes v.seconds
  unfold minuteStart
  omega

/-- From the minute of an instant on, the clock goes on undisturbed to the end of the hour. -/
theorem ChangedOnTheHour.count_in_hour {v m : Instant} (from_le : z.minuteStart v ≤ m.seconds)
    (before : m.seconds < z.minuteStart v + 60 * (60 - (z.wallAt v).minute : Int)) :
    (z.wallAt m).count = m.seconds + z.offsetAt v.seconds := by
  have start := onHour.minuteStart_eq v
  have whole := onHour.minutes (z.minuteStart v)
  have here := onHour.offsetAt_in_hour (t := z.minuteStart v) (u := v.seconds) (by omega) (by omega)
  have minute := (z.wallAt v).minute_eq
  have count : (z.wallAt v).count = v.seconds + z.offsetAt v.seconds := rfl
  have there := onHour.offsetAt_in_hour from_le (by omega)
  rw [here, ← there]
  rfl

end

end CronCalendar.Zone
