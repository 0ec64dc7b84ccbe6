import CronCalendar.Proofs.Zone.RareChanges
import CronCalendar.Zone.Table.Pacific

/-!
# Resolving wall times

A transition that puts the clock forward skips the wall times between the last reading of the old offset
and the first of the new one (`Zone.Skips`). In a zone that is rarely changed, the wall times that no
instant shows are those that a transition skips (`exists_skips`, `Skips.isInGap`). The probe of one
day earlier lies in the two days before that transition, however wide the gap, and reads the offset in
force before it (`Skips.probe`). So a wall time is resolved to the first instant that shows it or, if there
is none, is moved over the gap by the width of the gap (`resolve_cases`).
-/

namespace CronCalendar.Zone
set_option autoImplicit false

/-- A transition takes the clock from before a wall time to behind it. -/
def Skips (z : Zone) (x : Transition) (w : WallTime) : Prop :=
  x.since + z.offsetAt (x.since - 1) ≤ w.count ∧ w.count < x.since + z.offsetAt x.since

instance (z : Zone) (x : Transition) (w : WallTime) : Decidable (z.Skips x w) :=
  inferInstanceAs (Decidable (_ ∧ _))

/-- The seconds by which a transition puts the clock forward. -/
def gapWidth (z : Zone) (x : Transition) : Int := z.offsetAt x.since - z.offsetAt (x.since - 1)

/-- An instant shows a wall time, and none before it does. -/
structure FirstShows (z : Zone) (w : WallTime) (u : Instant) : Prop where
  shows : z.wallAt u = w
  first : ∀ v : Instant, z.wallAt v = w → u ≤ v

/-- An instant behind a transition shows a wall time moved by the width of the gap, where the probe of one
day earlier reads the offset before the gap. -/
structure MovedOver (z : Zone) (x : Transition) (w : WallTime) (u : Instant) : Prop where
  behind : x.since ≤ u.seconds
  reading : (z.wallAt u).count = w.count + z.gapWidth x
  probe : z.offsetAt (w.count - secondsPerDay) = z.offsetAt (x.since - 1)

variable {z : Zone} {x : Transition} {w : WallTime}

theorem firstShowing_firstShows {u : Instant} (shown : z.firstShowing? w = some u) : z.FirstShows w u := by
  obtain ⟨nanos, shows, first⟩ := firstShowing_eq_some shown
  refine ⟨shows, fun v shows' => ?_⟩
  have le : u.seconds ≤ v.seconds := first v.seconds (congrArg WallTime.count shows')
  rw [Instant.le_iff, Instant.lt_iff]
  omega

theorem isInGap_of_unshown (unshown : ¬∃ v : Instant, z.wallAt v = w) : z.isInGap w = true := by
  rw [isInGap_iff, Option.eq_none_iff_forall_ne_some]
  intro u shown
  exact unshown ⟨u, (firstShowing_eq_some shown).2.1⟩

theorem secondsPerDay_eq : secondsPerDay = 86400 := rfl

section
variable (rare : z.RarelyChanged)
include rare

/-- A wall time that is shown is resolved to the first instant that shows it. -/
theorem resolve_of_shown {v : Instant} (shows : z.wallAt v = w) (inside : firstSecond + 86400 ≤ w.count) :
    z.isInGap w = false ∧ ∃ u, z.resolve? w = some u ∧ z.FirstShows w u := by
  have shown : z.isInGap w = false := by
    rw [← Bool.not_eq_true]
    intro gap
    exact wallAt_ne_of_isInGap rare gap (by omega) v shows
  obtain ⟨u, shown'⟩ := isInGap_eq_false_iff.1 shown
  refine ⟨shown, u, ?_, firstShowing_firstShows shown'⟩
  rw [resolve?, shown']

/-- One that is not is read with the offset of one day earlier. -/
theorem resolve_of_gap (gap : z.isInGap w = true) (first : firstSecond + 86400 ≤ w.count)
    (last : w.count + 86400 ≤ lastSecond) :
    ∃ u : Instant, z.resolve? w = some u ∧ u.nanos = 0 ∧
      u.seconds = w.count - z.offsetAt (w.count - secondsPerDay) := by
  have day := secondsPerDay_eq
  have bounds := offsetAt_bounds rare (w.count - secondsPerDay)
  obtain ⟨probe, at_probe⟩ := @Instant.exists_ofSeconds (w.count - secondsPerDay) (by omega) (by omega)
  obtain ⟨u, at_u⟩ := @Instant.exists_ofSeconds (w.count - z.offsetAt (w.count - secondsPerDay))
    (by omega) (by omega)
  obtain ⟨seconds, nanos⟩ := Instant.ofSeconds_eq_some_iff.1 at_u
  refine ⟨u, ?_, nanos, seconds⟩
  rw [resolve?, isInGap_iff.1 gap]
  simp only [gapInstant?, at_probe, Option.bind_eq_bind, Option.bind_some,
    (Instant.ofSeconds_eq_some_iff.1 at_probe).1, at_u]

/-- A wall time in a gap is skipped by a transition. -/
theorem exists_skips (gap : z.isInGap w = true) (first : firstSecond + 86400 ≤ w.count)
    (last : w.count + 86400 ≤ lastSecond) : ∃ x ∈ z.transitions, z.Skips x w := by
  obtain ⟨u, resolved, -, -⟩ := resolve_of_gap rare gap first last
  obtain ⟨x, member, -, begun, seconds, -, swallowed | beyond⟩ := exists_change_of_gap rare gap resolved
  · exact ⟨x, member, by omega, swallowed⟩
  · have bounds := offsetAt_bounds rare x.since
    omega

namespace Skips

variable (member : x ∈ z.transitions) (skips : z.Skips x w)
include member skips

/-- A wall time that a transition skips is shown neither before it nor behind it. -/
theorem isInGap : z.isInGap w = true := by
  rw [isInGap_iff, Option.eq_none_iff_forall_ne_some]
  intro u shown
  obtain rfl := (firstShowing_eq_some shown).2.1
  obtain ⟨from_le, before⟩ := skips
  have count : (z.wallAt u).count = u.seconds + z.offsetAt u.seconds := rfl
  rcases Int.lt_or_le u.seconds x.since with earlier | later
  · have := reading_before rare member earlier
    omega
  · have := reading_behind rare member later
    omega

/-- One day earlier, the offset before the gap is in force. -/
theorem probe : z.offsetAt (w.count - secondsPerDay) = z.offsetAt (x.since - 1) := by
  have day := secondsPerDay_eq
  have bounds := offsetAt_bounds rare (x.since - 1)
  have bounds' := offsetAt_bounds rare x.since
  obtain ⟨from_le, before⟩ := skips
  exact offsetAt_before rare member (by omega) (by omega)

theorem resolve (first : firstSecond + 86400 ≤ w.count) (last : w.count + 86400 ≤ lastSecond) :
    ∃ u : Instant, z.resolve? w = some u ∧ u.nanos = 0 ∧
      u.seconds = w.count - z.offsetAt (x.since - 1) := by
  rw [← probe rare member skips]
  exact resolve_of_gap rare (isInGap rare member skips) first last

theorem movedOver {u : Instant} (seconds : u.seconds = w.count - z.offsetAt (x.since - 1)) :
    z.MovedOver x w u := by
  have bounds := offsetAt_bounds rare (x.since - 1)
  have bounds' := offsetAt_bounds rare x.since
  have behind : x.since ≤ u.seconds := by have := skips.1; omega
  have reading := count_behind rare member (v := u) behind (by have := skips.2; omega)
  exact ⟨behind, by rw [gapWidth]; omega, probe rare member skips⟩

end Skips

/-- A day inside the supported years, a wall time that is shown is resolved to the first instant that
shows it. One that is not is skipped by a transition, and is resolved to an instant behind the transition
that shows it moved by the width of the gap. -/
theorem resolve_cases (w : WallTime) (first : firstSecond + secondsPerDay ≤ w.count)
    (last : w.count + secondsPerDay ≤ lastSecond) :
    ((∃ v : Instant, z.wallAt v = w) →
      z.isInGap w = false ∧ ∃ u, z.resolve? w = some u ∧ z.FirstShows w u) ∧
    ((¬∃ v : Instant, z.wallAt v = w) →
      z.isInGap w = true ∧ (∃ x ∈ z.transitions, z.Skips x w) ∧
        ∃ u, z.resolve? w = some u ∧ ∀ x ∈ z.transitions, z.Skips x w → z.MovedOver x w u) := by
  have day := secondsPerDay_eq
  constructor
  · rintro ⟨v, shows⟩
    exact resolve_of_shown rare shows (by omega)
  · intro unshown
    have gap := isInGap_of_unshown unshown
    obtain ⟨u, resolved, -, seconds⟩ := resolve_of_gap rare gap (by omega) (by omega)
    refine ⟨gap, exists_skips rare gap (by omega) (by omega), u, resolved, fun x member skips => ?_⟩
    rw [Skips.probe rare member skips] at seconds
    exact Skips.movedOver rare member skips seconds

end

/-- The change by which the clock of Apia was put forward by a whole day. -/
def apiaDateLine : Transition := ⟨1325239200, ⟨50400, "+14"⟩⟩

/-- In Apia, half past three of 2011-04-02 is shown twice and is resolved to the first of the two instants.
Noon of 2011-12-30 is skipped with its whole day, and is moved to noon of the next. -/
theorem apia_resolves :
    (∃ u, apia.resolve? ⟨1301715000⟩ = some u ∧ u.seconds = 1301751000 ∧ apia.FirstShows ⟨1301715000⟩ u) ∧
    ∃ u, apia.resolve? ⟨1325246400⟩ = some u ∧ apia.MovedOver apiaDateLine ⟨1325246400⟩ u ∧
      apia.wallAt u = ⟨1325246400 + 86400⟩ := by
  have rare : apia.RarelyChanged :=
    rarelyChanged_of_spaced (by decide +kernel) (by decide +kernel) (by decide +kernel)
  constructor
  · have again : apia.wallAt ⟨1301754600, 0, by decide, by decide, by decide⟩ = ⟨1301715000⟩ := by
      decide +kernel
    obtain ⟨-, u, resolved, first⟩ :=
      (resolve_cases rare ⟨1301715000⟩ (by decide) (by decide)).1 ⟨_, again⟩
    have seconds : (apia.resolve? ⟨1301715000⟩).map Instant.seconds = some 1301751000 := by decide +kernel
    rw [resolved] at seconds
    exact ⟨u, resolved, Option.some.inj seconds, first⟩
  · have gap : apia.isInGap ⟨1325246400⟩ = true := by decide +kernel
    have unshown : ¬∃ v : Instant, apia.wallAt v = ⟨1325246400⟩ :=
      fun ⟨v, shows⟩ => wallAt_ne_of_isInGap rare gap (by decide) v shows
    obtain ⟨-, -, u, resolved, moved⟩ :=
      (resolve_cases rare ⟨1325246400⟩ (by decide) (by decide)).2 unshown
    have at_noon := moved apiaDateLine (by decide +kernel) (by decide +kernel)
    have width : apia.gapWidth apiaDateLine = 86400 := by decide +kernel
    refine ⟨u, resolved, at_noon, WallTime.eq_of_count ?_⟩
    rw [at_noon.reading, width]

end CronCalendar.Zone
