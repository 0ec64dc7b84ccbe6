import CronCalendar.Proofs.Search.Steps
import CronCalendar.Proofs.Schedule.Sequences
import CronCalendar.Proofs.Zone.RareChanges
import CronCalendar.Proofs.Zone.WholeHours
import CronCalendar.Zone.Table.Pacific

/-!
# Runs on days that are not named

The day of a candidate is checked before its hour, and a run is found within the hour of the last
candidate or of the instant that it jumps to over a gap (`wallAt_minuteStep`). Only that jump can leave
the day that was checked: when the last named hour of the day has passed, the jump goes to the next
day, and the search stays there in the hour behind the gap. `Strays` says when it then finds a run
on a day that is not named, and `keeps_dates_iff` that nothing else leads to one.
-/

namespace CronCalendar.Search
set_option autoImplicit false

variable {t : Timetable} {z : Zone} {firstYear : Int} {c : Candidate} {u : Instant}

/-- The look at the minutes stays within the hour. -/
theorem wallAt_minuteStep (proper : t.Proper) (whole : z.ShiftsWholeHours)
    (h : minuteStep t z c = .runs u) :
    (z.wallAt u).dayNumber = (z.wallAt c.instant).dayNumber ∧
      (z.wallAt u).hour = (z.wallAt c.instant).hour := by
  obtain ⟨start, found, ahead, -, moved⟩ := minuteStep_runs h
  obtain ⟨seconds, -⟩ := startOfMinute_eq_some.1 found
  obtain ⟨seconds', -⟩ := addMinutes_eq_some.1 moved
  have shown : (z.wallAt c.instant).count = c.instant.seconds + z.offsetAt c.instant.seconds := rfl
  have second := (z.wallAt c.instant).second_eq
  have start_eq := Zone.wallAt_of_sameHour whole (v := start) (b := c.instant) (by omega)
  have minute := (z.wallAt start).minute_eq
  have next_lt := proper.minute_lt _ (Values.nextFrom_mem proper.minutes (z.wallAt start).minute)
  have count : (z.wallAt start).count = start.seconds + z.offsetAt c.instant.seconds := by rw [start_eq]
  have same : (u.seconds + z.offsetAt c.instant.seconds) / 3600 = (z.wallAt c.instant).count / 3600 := by
    omega
  rw [Zone.wallAt_of_sameHour whole same]
  exact WallTime.sameHour same

/-- A search that has passed the last named hour of a named day jumps over a gap to the first named
hour of the next day, stays there although that day is not named, and finds a run. -/
structure Strays (t : Timetable) (z : Zone) (now : Instant) : Prop where
  today : t.namesDate (z.wallAt now).dayNumber = true
  passed : ∀ h ∈ t.hours, h < (z.wallAt now).hour
  tomorrow : t.namesDate ((z.wallAt now).dayNumber + 1) = false
  supported : (WallTime.atHour ((z.wallAt now).dayNumber + 1) (t.hours.nextFrom 0)).isSupported = true
  gap : z.isInGap (WallTime.atHour ((z.wallAt now).dayNumber + 1) (t.hours.nextFrom 0)) = true
  jump : ∃ target run : Instant,
    z.resolve? (WallTime.atHour ((z.wallAt now).dayNumber + 1) (t.hours.nextFrom 0)) = some target ∧
    (z.wallAt target).dayNumber = (z.wallAt now).dayNumber + 1 ∧ (z.wallAt target).hour ∉ t.hours ∧
    run.seconds = target.seconds + 60 * (t.minutes.nextFrom 0 : Int) ∧ run.seconds ≠ never.seconds

/-- An hour that is jumped to over a gap is a full one. -/
theorem fullHour_of_resolved (whole : z.ShiftsWholeHours) {n : Int} {h : Nat} {target : Instant}
    (resolved : z.resolve? (WallTime.atHour n h) = some target) :
    (z.wallAt target).count % 3600 = 0 := by
  apply Zone.resolve_mod whole _ resolved
  rw [WallTime.count_atHour]
  omega

/-- A search that strays finds its run on the next day. -/
theorem Strays.run (proper : t.Proper) (whole : z.ShiftsWholeHours) {now : Instant}
    (strays : Strays t z now) :
    ∃ u, run? t z now = some u ∧ u.seconds ≠ never.seconds ∧
      (z.wallAt u).dayNumber = (z.wallAt now).dayNumber + 1 := by
  obtain ⟨target, run, resolved, day, hour, at_run, real⟩ := strays.jump
  have least := Values.nextFrom_of_all_lt proper.hours strays.passed
  have early : t.hours.nextFrom 0 < (z.wallAt now).hour :=
    strays.passed _ (Values.nextFrom_mem proper.hours 0)
  have next_day : hourDay t (z.wallAt now) = (z.wallAt now).dayNumber + 1 := by
    rw [hourDay, least, if_pos early]
  have aim : aim? t (z.wallAt now) =
      some (.hour ((z.wallAt now).dayNumber + 1) (t.hours.nextFrom 0)) := by
    rcases aim_of_namesDate proper strays.today with ⟨-, aim⟩ | ⟨named, -⟩
    · rw [aim, next_day, least]
    · exact absurd (strays.passed _ named) (Nat.lt_irrefl _)
  have stays : staysInJumpedHour t z
      (WallTime.atHour ((z.wallAt now).dayNumber + 1) (t.hours.nextFrom 0)) target = true := by
    rw [staysInJumpedHour_iff]
    refine ⟨strays.gap, hour, ?_⟩
    rw [day, (WallTime.atHour_parts _ (proper.hour_lt _ (Values.nextFrom_mem proper.hours 0))).1]
  obtain ⟨u, seconds, nanos⟩ : ∃ u : Instant, u.seconds = run.seconds ∧ u.nanos = 0 :=
    ⟨⟨run.seconds, 0, by decide, run.firstSecond_le, run.le_lastSecond⟩, rfl, rfl⟩
  have look := (minuteStep_fullHour_iff (t := t) (z := z) (Zone.resolve_nanos resolved)
    (fullHour_of_resolved whole resolved)).2 ⟨seconds.trans at_run, nanos⟩
  have step : step t z (z.wallAt now).date.year ⟨now, true⟩ = minuteStep t z ⟨target, false⟩ := by
    rw [step_of_aim (c := ⟨now, true⟩) proper (le_yearLimit (Int.le_add_one (Int.le_refl _))) aim]
    simp [pursue, strays.supported, resolved, stays]
  refine ⟨u, run_eq_some.2 (iterate_of_runs (step.trans look) (by decide)), seconds ▸ real, ?_⟩
  rw [(wallAt_minuteStep proper whole look).1]
  exact day

/-- A run on a day that is not named is one that some search strays to. -/
theorem exists_strays (proper : t.Proper) (whole : z.ShiftsWholeHours) {now : Instant}
    (found : run? t z now = some u) (real : u ≠ never) :
    t.namesDate (z.wallAt u).dayNumber = true ∨ ∃ c : Instant, Strays t z c := by
  obtain ⟨c, -, last⟩ := exists_last_step (fun _ => True) (fun _ _ _ _ => trivial) trivial
    (run_eq_some.1 found)
  obtain ⟨b, looks, look⟩ := step_runs proper last
  rw [(wallAt_minuteStep proper whole look).1]
  cases looks with
  | stands none => exact Or.inl ((aim_eq_none_iff proper).1 none).1
  | @jumped n h target aim supported resolved stays =>
    obtain ⟨gap, hour, day⟩ := staysInJumpedHour_iff.1 stays
    rcases eq_of_aim proper aim with ⟨-, other⟩ | ⟨-, other, -⟩ | ⟨today, missed, aim_eq⟩
    · cases other
    · cases other
    cases aim_eq
    have next_lt := proper.hour_lt _ (Values.nextFrom_mem proper.hours (z.wallAt c.instant).hour)
    -- The day of the jump is the one that was checked, unless the hours wrap to the next day.
    simp only
    rw [day, (WallTime.atHour_parts _ next_lt).1]
    by_cases later : t.hours.nextFrom (z.wallAt c.instant).hour < (z.wallAt c.instant).hour
    · have next_day : hourDay t (z.wallAt c.instant) = (z.wallAt c.instant).dayNumber + 1 := if_pos later
      have passed : ∀ h ∈ t.hours, h < (z.wallAt c.instant).hour := by
        intro h member
        apply Nat.lt_of_not_le
        intro ahead
        exact Values.not_mem_of_nextFrom_lt proper.hours later (Or.inl ahead) member
      have least := Values.nextFrom_of_all_lt proper.hours passed
      obtain ⟨at_run, nanos⟩ := (minuteStep_fullHour_iff (Zone.resolve_nanos resolved)
        (fullHour_of_resolved whole resolved)).1 look
      have real : u.seconds ≠ never.seconds :=
        fun same => real (Instant.eq_of_parts same nanos)
      have day : (z.wallAt target).dayNumber = (z.wallAt c.instant).dayNumber + 1 := by
        rw [day, (WallTime.atHour_parts _ next_lt).1, next_day]
      rw [next_day, least] at supported resolved gap
      rw [next_day]
      by_cases tomorrow : t.namesDate ((z.wallAt c.instant).dayNumber + 1) = true
      · exact Or.inl tomorrow
      exact Or.inr ⟨c.instant, today, passed, Bool.eq_false_iff.2 tomorrow, supported, gap, target, u,
        resolved, day, hour, at_run, real⟩
    · left
      rw [hourDay, if_neg later]
      exact today

end CronCalendar.Search

namespace CronCalendar.Schedule
set_option autoImplicit false

/-- In a zone that shifts by whole hours, the runs of a schedule keep to the days that it names exactly
if no search strays. -/
theorem keeps_dates_iff {s : Schedule} {z : Zone} (satisfiable : s.isSatisfiable = true)
    (whole : z.ShiftsWholeHours) :
    (∀ now : Instant, s.nextRun z now ≠ never →
        s.timetable.namesDate (z.wallAt (s.nextRun z now)).dayNumber = true) ↔
      ∀ c : Instant, ¬ Search.Strays s.timetable z c := by
  have proper := timetable_proper satisfiable
  constructor
  · intro keeps c strays
    obtain ⟨u, found, real, day⟩ := strays.run proper whole
    have next := nextRun_of_run satisfiable found
    have named := keeps c (by
      rw [next]
      rintro rfl
      exact real rfl)
    rw [next, day, strays.tomorrow] at named
    cases named
  · intro straight now real
    rcases Search.exists_strays proper whole (run_of_nextRun real).2 real with named | ⟨c, strays⟩
    · exact named
    · exact absurd strays (straight c)

/-- At half past one on the 31st of each month that has one. -/
def nightOfThirtyFirst : Schedule where
  taskId := "backup"
  fields := { minute := .ofText "30", hour := .ofText "1", day := .ofText "31" }

/-- Where a 31st of March begins with a gap, the run of that night comes behind the gap, at an hour that is
not named. No date is missed, since the night behind a 31st has no gap. -/
theorem nightOfThirtyFirst_keeps_dates :
    nightOfThirtyFirst.isSatisfiable = true ∧ Zone.troll.ShiftsWholeHours ∧
      (∀ now : Instant, nightOfThirtyFirst.nextRun Zone.troll now ≠ never →
        nightOfThirtyFirst.timetable.namesDate
          (Zone.troll.wallAt (nightOfThirtyFirst.nextRun Zone.troll now)).dayNumber = true) ∧
      ∃ now next : Instant, now.seconds = 1711800000 ∧ nightOfThirtyFirst.nextRun Zone.troll now = next ∧
        (Zone.troll.wallAt next).date = ⟨2024, 3, 31⟩ ∧ (Zone.troll.wallAt next).hour = 3 ∧
        3 ∉ nightOfThirtyFirst.timetable.hours := by
  have satisfiable : nightOfThirtyFirst.isSatisfiable = true := by decide +kernel
  have whole : Zone.troll.ShiftsWholeHours := by decide +kernel
  refine ⟨satisfiable, whole, (keeps_dates_iff satisfiable whole).2 ?_,
    ⟨1711800000, 0, by decide, by decide, by decide⟩, ⟨1711848600, 0, by decide, by decide, by decide⟩, rfl,
    by decide +kernel, by decide +kernel, by decide +kernel, by decide +kernel⟩
  intro c strays
  obtain ⟨target, -, resolved, -⟩ := strays.jump
  obtain ⟨x, member, before, swallowed, seconds, -⟩ :=
    Zone.gap_of_resolve (by decide +kernel) strays.gap resolved (by decide +kernel)
  have first : nightOfThirtyFirst.timetable.hours.nextFrom 0 = 1 := by decide +kernel
  rw [first, WallTime.count_atHour] at seconds swallowed
  -- Each gap takes the hours one and two, and the day before it is no 31st.
  obtain ⟨begun, wide, eve⟩ := Zone.forall_of_changes (z := Zone.troll)
    (p := fun since old new => old < new → (since + old) % 86400 = 3600 ∧ new ≤ old + 7200 ∧
      (Date.ofDayNumber ((since + old) / 86400 - 1)).day ≠ 31) (by decide +kernel) x member (by omega)
  have date : (x.since + Zone.troll.offsetAt (x.since - 1)) / 86400 - 1 =
      (Zone.troll.wallAt c).dayNumber := by omega
  rw [date] at eve
  have named : (Date.ofDayNumber (Zone.troll.wallAt c).dayNumber).day ∈
      nightOfThirtyFirst.timetable.days := by
    have day := (Timetable.namesDate_iff.1 strays.today).2
    rw [Timetable.namesDay_iff, show nightOfThirtyFirst.timetable.anyWeekday = true from rfl] at day
    simpa using day
  have only : nightOfThirtyFirst.timetable.days = Values.singleton 31 := by decide +kernel
  rw [only, Values.mem_singleton] at named
  exact eve named

/-- At half past one on the 30th of each month. -/
def nightOfThirtieth : Schedule where
  taskId := "backup"
  fields := { minute := .ofText "30", hour := .ofText "1", day := .ofText "30" }

/-- From the noon of 2024-03-30 on, the next run comes on the 31st, behind the gap of that night. -/
theorem nightOfThirtieth_strays :
    nightOfThirtieth.isSatisfiable = true ∧ Zone.troll.ShiftsWholeHours ∧
      ∃ now next : Instant, now.seconds = 1711800000 ∧ next.seconds = 1711848600 ∧
        nightOfThirtieth.nextRun Zone.troll now = next ∧ next ≠ never ∧
        (Zone.troll.wallAt next).date = ⟨2024, 3, 31⟩ ∧
        nightOfThirtieth.timetable.namesDate (Zone.troll.wallAt next).dayNumber = false := by
  refine ⟨by decide +kernel, by decide +kernel, ?_⟩
  refine ⟨⟨1711800000, 0, by decide, by decide, by decide⟩,
    ⟨1711848600, 0, by decide, by decide, by decide⟩, rfl, rfl, ?_, by decide, ?_, ?_⟩
  · decide +kernel
  · decide +kernel
  · decide +kernel

end CronCalendar.Schedule
