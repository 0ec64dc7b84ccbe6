import CronCalendar.Proofs.Search.Setbacks
import CronCalendar.Proofs.Zone.Resolving

/-!
# Where days start

The search jumps to the start of a day. Where midnight is shown, that is its first instant, and the clock
shows nothing of the day before it (`FirstShows.le_of_day`). Where a gap swallows midnight, the start comes
as long behind the gap as midnight comes behind its beginning (`startOfDay_of_skips`). So it is the first
instant behind the gap exactly if the gap begins at midnight, and the jump leaves out a part of the day
exactly if a gap breaks into the day from the day before (`startOfDay_first_iff`).
-/

namespace CronCalendar
set_option autoImplicit false

namespace Zone

/-- A transition takes the clock from the day before a day to behind the midnight with which the day
starts, and leaves the rest of the day. -/
structure BreaksInto (z : Zone) (x : Transition) (n : Int) : Prop where
  early : x.since + z.offsetAt (x.since - 1) < 86400 * n
  behind : 86400 * n < x.since + z.offsetAt x.since
  inside : x.since + z.offsetAt x.since < 86400 * (n + 1)

instance (z : Zone) (x : Transition) (n : Int) : Decidable (z.BreaksInto x n) :=
  decidable_of_iff
    (x.since + z.offsetAt (x.since - 1) < 86400 * n ∧ 86400 * n < x.since + z.offsetAt x.since ∧
      x.since + z.offsetAt x.since < 86400 * (n + 1))
    ⟨fun h => ⟨h.1, h.2.1, h.2.2⟩, fun h => ⟨h.early, h.behind, h.inside⟩⟩

variable {z : Zone} {x : Transition} {n : Int} {u v : Instant}

theorem BreaksInto.skips (breaks : z.BreaksInto x n) : z.Skips x (WallTime.ofDay n 0) := by
  have count := WallTime.count_ofDay n 0
  have early := breaks.early
  have behind := breaks.behind
  exact ⟨by omega, by omega⟩

/-- An instant is on a day if the clock shows a reading between the two midnights. -/
theorem dayNumber_iff :
    (z.wallAt v).dayNumber = n ↔
      86400 * n ≤ v.seconds + z.offsetAt v.seconds ∧ v.seconds + z.offsetAt v.seconds < 86400 * (n + 1) := by
  have number : (z.wallAt v).dayNumber = (v.seconds + z.offsetAt v.seconds) / 86400 := rfl
  omega

section
variable (rare : z.RarelyChanged)
include rare

/-- The clock shows nothing of a day before it first shows its midnight: a change that puts it back to
midnight would leave the midnight of the old offset earlier. -/
theorem FirstShows.le_of_day (shows : z.FirstShows (WallTime.ofDay n 0) u) (whole : u.nanos = 0)
    (first : firstSecond + 86400 ≤ 86400 * n) (on_day : (z.wallAt v).dayNumber = n) : u ≤ v := by
  have at_midnight : u.seconds + z.offsetAt u.seconds = 86400 * n + (0 : Nat) :=
    congrArg WallTime.count shows.shows
  obtain ⟨begun, -⟩ := dayNumber_iff.1 on_day
  rw [Instant.le_iff, Instant.lt_iff]
  intro earlier
  obtain ⟨a, member, after, le⟩ :=
    exists_transition (z := z) (t := v.seconds) (u := u.seconds) (by omega) (by omega)
  have old := reading_before rare member after
  have new := reading_behind rare member le
  have bounds := offsetAt_bounds rare (a.since - 1)
  have bounds' := offsetAt_bounds rare a.since
  have last := u.le_lastSecond
  obtain ⟨m, seconds, -⟩ := @Instant.exists_at (86400 * n - z.offsetAt (a.since - 1)) (by omega) (by omega)
  have again : z.wallAt m = WallTime.ofDay n 0 := by
    apply WallTime.eq_of_count
    rw [count_before rare member (by omega) (by omega), WallTime.count_ofDay]
    omega
  have := shows.first m again
  rw [Instant.le_iff, Instant.lt_iff] at this
  omega

section
variable (start : z.startOfDay? n = some u)
include start

/-- A day whose midnight is shown starts with it. -/
theorem firstShows_startOfDay (shows : z.wallAt v = WallTime.ofDay n 0)
    (first : firstSecond + 86400 ≤ 86400 * n) : z.FirstShows (WallTime.ofDay n 0) u := by
  have count := WallTime.count_ofDay n 0
  obtain ⟨-, u', resolved, first_shows⟩ := resolve_of_shown rare shows (by omega)
  obtain rfl : u' = u := Option.some.inj (resolved.symm.trans start)
  exact first_shows

/-- A day whose midnight is skipped starts as long behind the gap as midnight comes behind the beginning of
the gap. -/
theorem startOfDay_of_skips (first : firstSecond + 86400 ≤ 86400 * n)
    (last : 86400 * n + 86400 ≤ lastSecond) (member : x ∈ z.transitions)
    (skips : z.Skips x (WallTime.ofDay n 0)) :
    u.seconds = x.since + (86400 * n - (x.since + z.offsetAt (x.since - 1))) := by
  have count := WallTime.count_ofDay n 0
  obtain ⟨u', resolved, -, seconds⟩ := skips.resolve rare member (by omega) (by omega)
  obtain rfl : u' = u := Option.some.inj (resolved.symm.trans start)
  omega

end

variable (first : firstSecond + 86400 ≤ 86400 * n) (last : 86400 * n + 86400 ≤ lastSecond)
include first last

theorem exists_startOfDay : ∃ u, z.startOfDay? n = some u := by
  have count := WallTime.count_ofDay n 0
  cases gap : z.isInGap (WallTime.ofDay n 0) with
  | true =>
    obtain ⟨u, resolved, -⟩ := resolve_of_gap rare gap (by omega) (by omega)
    exact ⟨u, resolved⟩
  | false =>
    obtain ⟨u, shown⟩ := isInGap_eq_false_iff.1 gap
    exact ⟨u, by rw [startOfDay?, resolve?, shown]⟩

/-- A day whose midnight is not shown has it skipped by a transition. -/
theorem exists_skips_midnight (unshown : ¬∃ v : Instant, z.wallAt v = WallTime.ofDay n 0) :
    ∃ x ∈ z.transitions, z.Skips x (WallTime.ofDay n 0) := by
  have count := WallTime.count_ofDay n 0
  exact exists_skips rare (isInGap_of_unshown unshown) (by omega) (by omega)

variable (start : z.startOfDay? n = some u)
include start

/-- A gap that breaks into a day ends on it, before the start of the day. -/
theorem exists_lt_startOfDay (member : x ∈ z.transitions) (breaks : z.BreaksInto x n) :
    ∃ v : Instant, v.seconds = x.since ∧ (z.wallAt v).dayNumber = n ∧ v < u := by
  have seconds := startOfDay_of_skips rare start first last member breaks.skips
  have early := breaks.early
  have behind := breaks.behind
  have inside := breaks.inside
  have bounds := offsetAt_bounds rare x.since
  have bounds' := offsetAt_bounds rare (x.since - 1)
  obtain ⟨v, at_v, -⟩ := @Instant.exists_at x.since (by omega) (by omega)
  refine ⟨v, at_v, dayNumber_iff.2 (by rw [at_v]; omega), ?_⟩
  rw [Instant.lt_iff]
  omega

/-- If no gap breaks into a day, the clock shows nothing of it before its start. -/
theorem startOfDay_le (unbroken : ∀ x ∈ z.transitions, ¬ z.BreaksInto x n)
    (on_day : (z.wallAt v).dayNumber = n) : u ≤ v := by
  by_cases shown : ∃ m : Instant, z.wallAt m = WallTime.ofDay n 0
  · obtain ⟨m, shows⟩ := shown
    exact (firstShows_startOfDay rare start shows first).le_of_day rare (resolve_nanos start) first on_day
  · obtain ⟨x, member, skips⟩ := exists_skips_midnight rare first last shown
    have seconds := startOfDay_of_skips rare start first last member skips
    have whole := resolve_nanos start
    have count := WallTime.count_ofDay n 0
    obtain ⟨begins, ends⟩ := skips
    obtain ⟨from_le, lt⟩ := dayNumber_iff.1 on_day
    rw [Instant.le_iff, Instant.lt_iff]
    rcases Int.lt_or_le v.seconds x.since with before | behind
    · have := reading_before rare member before
      omega
    · have := reading_behind rare member behind
      by_cases early : x.since + z.offsetAt (x.since - 1) < 86400 * n
      · exact absurd ⟨early, by omega, by omega⟩ (unbroken x member)
      · omega

end
end Zone

namespace Search

variable {t : Timetable} {z : Zone} {n firstYear : Int} {c : Candidate}

/-- A step that aims at a day goes on from its start. -/
theorem step_to_day (proper : t.Proper) (within : (z.wallAt c.instant).date.year ≤ firstYear + yearLimit)
    (aim : aim? t (z.wallAt c.instant) = some (.day n)) (first : firstSecond ≤ 86400 * n)
    (last : 86400 * n ≤ lastSecond) : step t z firstYear c = goOnAt (z.startOfDay? n) := by
  have count := WallTime.count_ofDay n 0
  have supported : (WallTime.ofDay n 0).isSupported = true := WallTime.isSupported_iff.2 (by omega)
  rw [step_of_aim proper within aim, pursue, startOfSupportedDay?, if_pos supported]

end Search

namespace Schedule

open Search (aim? step yearLimit Candidate)

/-- In a zone that is rarely changed, a day inside the supported years has a start, to which each step that
aims at the day jumps. If midnight is not shown, a transition skips it, and the start is the instant of that
transition exactly if the gap begins at midnight. The clock shows nothing of the day before the start
exactly if no gap breaks into the day. -/
theorem startOfDay_first_iff {z : Zone} {n : Int} (rare : z.RarelyChanged)
    (first : firstSecond + 86400 ≤ 86400 * n) (last : 86400 * n + 86400 ≤ lastSecond) :
    ∃ u, z.startOfDay? n = some u ∧
      ((¬∃ v : Instant, z.wallAt v = WallTime.ofDay n 0) →
        ∃ x ∈ z.transitions, z.Skips x (WallTime.ofDay n 0) ∧
          (u.seconds = x.since ↔ x.since + z.offsetAt (x.since - 1) = 86400 * n)) ∧
      ((∀ v : Instant, (z.wallAt v).dayNumber = n → u ≤ v) ↔
        ∀ x ∈ z.transitions, ¬ z.BreaksInto x n) ∧
      ∀ (t : Timetable) (firstYear : Int) (c : Candidate), t.Proper →
        (z.wallAt c.instant).date.year ≤ firstYear + yearLimit →
        aim? t (z.wallAt c.instant) = some (.day n) → step t z firstYear c = .goOn ⟨u, false⟩ := by
  obtain ⟨u, start⟩ := Zone.exists_startOfDay rare first last
  refine ⟨u, start, fun unshown => ?_, ⟨fun least x member breaks => ?_, fun unbroken v on_day => ?_⟩, ?_⟩
  · obtain ⟨x, member, skips⟩ := Zone.exists_skips_midnight rare first last unshown
    have seconds := Zone.startOfDay_of_skips rare start first last member skips
    exact ⟨x, member, skips, by omega⟩
  · obtain ⟨v, -, on_day, earlier⟩ := Zone.exists_lt_startOfDay rare first last start member breaks
    exact Instant.le_iff.1 (least v on_day) earlier
  · exact Zone.startOfDay_le rare first last start unbroken on_day
  · intro t firstYear c proper within aim
    rw [Search.step_to_day proper within aim (by omega) (by omega), start]
    rfl

/-- In São Paulo, the clock was put forward at the midnight of 2018-11-04. The day starts with that change, and
nothing of it comes before. -/
theorem saoPaulo_startOfDay :
    Zone.saoPaulo.RarelyChanged ∧ (¬∃ v : Instant, Zone.saoPaulo.wallAt v = WallTime.ofDay 17839 0) ∧
      ∃ u : Instant, Zone.saoPaulo.startOfDay? 17839 = some u ∧ u.seconds = 1541300400 ∧
        ∀ v : Instant, (Zone.saoPaulo.wallAt v).dayNumber = 17839 → u ≤ v := by
  have rare : Zone.saoPaulo.RarelyChanged :=
    Zone.rarelyChanged_of_spaced (by decide +kernel) (by decide +kernel) (by decide +kernel)
  have gap : Zone.saoPaulo.isInGap (WallTime.ofDay 17839 0) = true := by decide +kernel
  have unshown : ¬∃ v : Instant, Zone.saoPaulo.wallAt v = WallTime.ofDay 17839 0 :=
    fun ⟨v, shows⟩ => Zone.wallAt_ne_of_isInGap rare gap (by decide) v shows
  have change : ∀ x ∈ Zone.saoPaulo.transitions, Zone.saoPaulo.Skips x (WallTime.ofDay 17839 0) →
      x.since = 1541300400 := by decide +kernel
  have begins : 1541300400 + Zone.saoPaulo.offsetAt (1541300400 - 1) = 86400 * 17839 := by decide +kernel
  have unbroken : ∀ x ∈ Zone.saoPaulo.transitions, ¬ Zone.saoPaulo.BreaksInto x 17839 := by decide +kernel
  obtain ⟨u, start, opens, least, -⟩ := startOfDay_first_iff (n := 17839) rare (by decide) (by decide)
  obtain ⟨x, member, skips, at_change⟩ := opens unshown
  rw [change x member skips] at at_change
  exact ⟨rare, unshown, u, start, at_change.2 begins, least.2 unbroken⟩

/-- A quarter to one on the last day of March. -/
def endOfMarch : Schedule where
  taskId := "report"
  fields := { minute := .ofText "45", hour := .ofText "0", day := .ofText "31", month := .ofText "3" }

/-- On the eve of 1919-03-31, at half past eleven, the clock of Toronto was put forward by an hour. The search
starts the day at one o'clock and leaves out the half hour before that, in which the schedule for a quarter
to one runs: it finds the run of the next year. -/
theorem toronto_breaks_into_day :
    endOfMarch.isSatisfiable = true ∧ (¬∃ v : Instant, Zone.toronto.wallAt v = WallTime.ofDay (-18539) 0) ∧
      ∃ noon change start missed next : Instant,
        Zone.toronto.Skips ⟨change.seconds, ⟨-14400, "EDT"⟩⟩ (WallTime.ofDay (-18539) 0) ∧
        (Zone.toronto.wallAt change).dayNumber = -18539 ∧
        Zone.toronto.startOfDay? (-18539) = some start ∧ start.seconds = change.seconds + 1800 ∧
        step endOfMarch.timetable Zone.toronto 1919 ⟨noon, true⟩ = .goOn ⟨start, false⟩ ∧
        endOfMarch.matchesAt Zone.toronto missed = true ∧ noon < missed ∧ missed < start ∧
        endOfMarch.nextRun Zone.toronto noon = next ∧ (Zone.toronto.wallAt next).date = ⟨1920, 3, 31⟩ := by
  have rare : Zone.toronto.RarelyChanged :=
    Zone.rarelyChanged_of_spaced (by decide +kernel) (by decide +kernel) (by decide +kernel)
  have gap : Zone.toronto.isInGap (WallTime.ofDay (-18539) 0) = true := by decide +kernel
  refine ⟨by decide +kernel, fun ⟨v, shows⟩ => Zone.wallAt_ne_of_isInGap rare gap (by decide) v shows,
    ⟨-1601812800, 0, by decide, by decide, by decide⟩, ⟨-1601753400, 0, by decide, by decide, by decide⟩,
    ⟨-1601751600, 0, by decide, by decide, by decide⟩, ⟨-1601752500, 0, by decide, by decide, by decide⟩,
    ⟨-1570126500, 0, by decide, by decide, by decide⟩, ?_⟩
  decide +kernel

end Schedule
end CronCalendar
