import CronCalendar.Proofs.Search.EveryDay
import CronCalendar.Proofs.Zone.HourGaps

/-!
# The first run of a day

From the last minute of a date, the search comes to the next date by its minutes, by an hour or by a day
(`DayBreak` says what the clock shows there). A named hour of that date that a gap swallows is run in the hour
behind the gap (`pursue_on`), but only where the search looks for that hour: a jump to a day whose first
hour is swallowed arrives in the second one, and the named midnight is lost if no other hour of the day is named
(`LosesDay`). Nothing else costs a named date its run (`runsOn_of_eve`).
-/

namespace CronCalendar
set_option autoImplicit false

/-- An instant in the last minute of the date before a day. -/
structure Zone.LastMinuteBefore (z : Zone) (day : Int) (now : Instant) : Prop where
  date : (z.wallAt now).dayNumber = day - 1
  undisturbed : ∀ x ∈ z.transitions, x.since ≤ z.minuteStart now ∨ z.minuteStart now + 60 ≤ x.since
  last : ∀ m : Instant, z.minuteStart now + 60 ≤ m.seconds → (z.wallAt m).dayNumber ≠ day - 1

namespace Search

/-- A run on a day: at an hour that is named, or behind a gap that swallows such an hour. -/
structure RunsOn (t : Timetable) (z : Zone) (day : Int) (u : Instant) : Prop where
  date : (z.wallAt u).dayNumber = day
  hour : (z.wallAt u).hour ∈ t.hours ∨
    ∃ h ∈ t.hours, z.isInGap (WallTime.atHour day h) = true ∧ (z.wallAt u).hour = h + 1

/-- A day whose first hour lies in a gap and is the only one that is named, behind a date that is not. -/
structure LosesDay (t : Timetable) (z : Zone) (day : Int) : Prop where
  gap : z.isInGap (WallTime.atHour day 0) = true
  midnight : ∀ h ∈ t.hours, h = 0
  eve : t.namesDate (day - 1) = false

/-- What the clock shows when the last minute of a date has passed: midnight, also when the hour before it
lies in a gap, or one o'clock, when the first hour does. -/
inductive DayBreak (z : Zone) (day : Int) (now e : Instant) : Prop
  | midnight (hour : (z.wallAt now).hour = 23) (shows : z.wallAt e = WallTime.atHour day 0)
  | early (hour : (z.wallAt now).hour = 22) (shows : z.wallAt e = WallTime.atHour day 0)
      (gap : z.isInGap (WallTime.atHour (day - 1) 23) = true)
      (resolved : z.resolve? (WallTime.atHour (day - 1) 23) = some e)
  | swallowed (hour : (z.wallAt now).hour = 23) (shows : z.wallAt e = WallTime.atHour day 1)
      (gap : z.isInGap (WallTime.atHour day 0) = true)
      (resolved : z.resolve? (WallTime.atHour day 0) = some e)

variable {t : Timetable} {z : Zone} {firstYear day : Int} {c : Candidate} {now u : Instant}

section
variable (rare : z.RarelyChanged) (settled : z.Settled) (gaps : z.GapsOfAnHour)
  (first : firstSecond + 259200 ≤ 86400 * day) (last : 86400 * day + 259200 ≤ lastSecond)
include rare settled gaps first last

omit gaps first last in
/-- The clock is not put back when the last minute of a date has passed, or it would show that date again. -/
theorem le_of_eve (eve : z.LastMinuteBefore day now) {x : Transition} (member : x ∈ z.transitions)
    (at_x : x.since = z.minuteStart now + 60) : z.offsetAt (x.since - 1) ≤ z.offsetAt x.since := by
  have bounds := minuteStart_bounds z now
  have place : z.minuteStart now = now.seconds - (z.wallAt now).second := rfl
  have second := (z.wallAt now).second_eq
  have date := eve.date
  have count := Zone.count_before rare member (v := now) (by omega) (by omega)
  have number : (z.wallAt now).dayNumber = (z.wallAt now).count / 86400 := rfl
  have early := settled x member
  have ceiling : never.seconds ≤ lastSecond := by decide
  have old := Zone.offsetAt_bounds rare (x.since - 1)
  have new := Zone.offsetAt_bounds rare x.since
  apply Int.not_lt.1
  intro back
  obtain ⟨m, at_m, -⟩ := @Instant.exists_at (max x.since (86400 * (day - 1) - z.offsetAt x.since))
    (by omega) (by omega)
  have count_m := Zone.count_behind rare member (v := m) (by omega) (by omega)
  have number_m : (z.wallAt m).dayNumber = (z.wallAt m).count / 86400 := rfl
  exact eve.last m (by omega) (by omega)

theorem exists_dayBreak (eve : z.LastMinuteBefore day now) :
    (z.wallAt now).minute = 59 ∧
      ∃ e : Instant, e.seconds = z.minuteStart now + 60 ∧ e.nanos = 0 ∧ DayBreak z day now e := by
  have bounds := minuteStart_bounds z now
  have place : z.minuteStart now = now.seconds - (z.wallAt now).second := rfl
  have second := (z.wallAt now).second_eq
  have minute := (z.wallAt now).minute_eq
  have shown := (z.wallAt now).count_eq
  have count : (z.wallAt now).count = now.seconds + z.offsetAt now.seconds := rfl
  have date := eve.date
  have hour_lt := (z.wallAt now).hour_lt
  have minute_lt := (z.wallAt now).minute_lt
  have bounds' := Zone.offsetAt_bounds rare now.seconds
  obtain ⟨e, seconds, nanos⟩ := @Instant.exists_at (z.minuteStart now + 60) (by omega) (by omega)
  have count_e : (z.wallAt e).count = e.seconds + z.offsetAt e.seconds := rfl
  have number : (z.wallAt e).dayNumber = (z.wallAt e).count / 86400 := rfl
  have later := eve.last e (by omega)
  rw [number] at later
  by_cases same : z.offsetAt now.seconds = z.offsetAt e.seconds
  · refine ⟨by omega, e, seconds, nanos, .midnight (by omega) (WallTime.eq_of_count ?_)⟩
    rw [WallTime.count_atHour]
    omega
  · obtain ⟨x, member, after, before⟩ := Zone.exists_transition (by omega) same
    have at_x : x.since = e.seconds := by
      rcases eve.undisturbed x member with h | h <;> omega
    have old := Zone.offsetAt_before rare member after (by omega)
    have forward := le_of_eve rare settled eve member (at_x.trans seconds)
    rw [← at_x] at same
    obtain ⟨wide, hour⟩ := gaps x member (by omega)
    have jump : ∀ w : WallTime, w.count = x.since + z.offsetAt (x.since - 1) →
        z.isInGap w = true ∧ z.resolve? w = some e := by
      intro w reading
      obtain ⟨gap, u, resolved, nanos_u, at_u⟩ :=
        Zone.resolve_swallowed rare settled member (w := w) (by omega) (by omega)
      obtain rfl : u = e := Instant.eq_of_parts (by omega) (nanos_u.trans nanos.symm)
      exact ⟨gap, resolved⟩
    rw [at_x] at wide hour old jump
    by_cases half : (z.wallAt now).hour = 23
    · obtain ⟨gap, resolved⟩ := jump (WallTime.atHour day 0) (by rw [WallTime.count_atHour]; omega)
      refine ⟨by omega, e, seconds, nanos, .swallowed half (WallTime.eq_of_count ?_) gap resolved⟩
      rw [WallTime.count_atHour]
      omega
    · obtain ⟨gap, resolved⟩ := jump (WallTime.atHour (day - 1) 23)
        (by rw [WallTime.count_atHour]; omega)
      refine ⟨by omega, e, seconds, nanos, .early (by omega) (WallTime.eq_of_count ?_) gap resolved⟩
      rw [WallTime.count_atHour]
      omega

end

section
variable (proper : t.Proper) (rare : z.RarelyChanged) (gaps : z.GapsOfAnHour)
  (setbacks : z.SetBackAtFullHours day)
include proper rare gaps setbacks

/-- From a full hour of the day, the look at the minutes ends in that hour. -/
theorem look_on {q : Instant} (nanos : q.nanos = 0) (full : (z.wallAt q).count % 3600 = 0)
    (on : (z.wallAt q).dayNumber = day) (later : q.seconds + 3600 ≤ lastSecond) :
    ∃ u, minuteStep t z ⟨q, false⟩ = .runs u ∧ (z.wallAt u).dayNumber = day ∧
      (z.wallAt u).hour = (z.wallAt q).hour := by
  have lt := proper.minute_lt _ (Values.nextFrom_mem proper.minutes 0)
  obtain ⟨u, look, at_u⟩ := exists_minuteStep_runs (t := t) proper nanos full later
  have count := Zone.wallAt_in_hour rare gaps setbacks full on lt at_u
  obtain ⟨date, hour⟩ := WallTime.sameHour (v := z.wallAt u) (w := z.wallAt q) (by omega)
  exact ⟨u, look, date.trans on, hour⟩

variable (named : t.namesDate day = true) (last : 86400 * day + 259200 ≤ lastSecond)
  (years : ∀ w : WallTime, w.dayNumber ≤ day → w.date.year ≤ firstYear + yearLimit)
include named last years

/-- From a full hour of the day that is named, the search runs in that hour. -/
theorem run_on {q : Instant} (nanos : q.nanos = 0) (full : (z.wallAt q).count % 3600 = 0)
    (on : (z.wallAt q).dayNumber = day) (hour : (z.wallAt q).hour ∈ t.hours) :
    ∃ u, iterate t z firstYear 1 ⟨q, false⟩ = .runs u ∧ RunsOn t z day u := by
  have count : (z.wallAt q).count = q.seconds + z.offsetAt q.seconds := rfl
  have number : (z.wallAt q).dayNumber = (z.wallAt q).count / 86400 := rfl
  have bounds := Zone.offsetAt_bounds rare q.seconds
  obtain ⟨u, look, date, hour'⟩ :=
    look_on proper rare gaps setbacks nanos full on (by omega)
  have fits : aim? t (z.wallAt q) = none := by
    rw [aim_eq_none_iff proper, on]
    exact ⟨named, hour⟩
  have found : step t z firstYear ⟨q, false⟩ = .runs u := by
    rw [step_of_fits (c := ⟨q, false⟩) proper (years _ (Int.le_of_eq on)) fits]
    exact look
  refine ⟨u, iterate_of_runs found (by decide), date, Or.inl ?_⟩
  rw [hour']
  exact hour

variable (settled : z.Settled) (closed : z.isInGap (WallTime.atHour day 23) = false)
  (first : firstSecond + 259200 ≤ 86400 * day)
include settled closed first

/-- A search for a named hour of the day runs in that hour, or in the one behind the gap. -/
theorem pursue_on {h : Nat} (hour : h ∈ t.hours)
    (jump : step t z firstYear c = pursue t z (.hour day h)) :
    ∃ u, iterate t z firstYear 2 c = .runs u ∧ RunsOn t z day u := by
  have lt := proper.hour_lt _ hour
  obtain ⟨date, hour_eq, -⟩ := WallTime.atHour_parts day lt
  have count := WallTime.count_atHour day h
  have full : (WallTime.atHour day h).count % 3600 = 0 := by omega
  have supported : (WallTime.atHour day h).isSupported = true := by
    rw [WallTime.isSupported_iff]
    omega
  cases gap : z.isInGap (WallTime.atHour day h) with
  | false =>
    obtain ⟨q, shown⟩ := Zone.isInGap_eq_false_iff.1 gap
    obtain ⟨nanos, wall, -⟩ := Zone.firstShowing_eq_some shown
    have moved := pursue_shown (t := t) full supported shown
    rw [date, hour_eq] at moved
    obtain ⟨u, found, runs⟩ := run_on proper rare gaps setbacks named last years nanos
      (by rw [wall]; exact full) (by rw [wall]; exact date) (by rw [wall, hour_eq]; exact hour)
    exact ⟨u, iterate_of_goOn (jump.trans moved) found, runs⟩
  | true =>
    obtain ⟨x, member, v, reading, wide, resolved, at_v, nanos⟩ :=
      Zone.exists_gap rare gaps full gap (by omega) (by omega)
    have inside : h ≠ 23 := by
      rintro rfl
      rw [closed] at gap
      cases gap
    have wall : z.wallAt v = WallTime.atHour day (h + 1) := by
      apply WallTime.eq_of_count
      rw [WallTime.count_atHour, Zone.wallAt, at_v, wide]
      simp only
      omega
    obtain ⟨date_v, hour_v, -⟩ := @WallTime.atHour_parts day (h + 1) (by omega)
    have count_v := WallTime.count_atHour day (h + 1)
    rw [← wall] at date_v hour_v count_v
    by_cases other : h + 1 ∈ t.hours
    · have moved : pursue t z (.hour day h) = .goOn ⟨v, false⟩ := by
        have leaves : staysInJumpedHour t z (WallTime.atHour day h) v = false := by
          apply Bool.eq_false_iff.2
          intro stays
          have := (staysInJumpedHour_iff.1 stays).2.1
          rw [hour_v] at this
          exact this other
        simp [pursue, supported, resolved, leaves]
      obtain ⟨u, found, runs⟩ := run_on proper rare gaps setbacks named last years nanos
        (by omega) date_v (by rw [hour_v]; exact other)
      exact ⟨u, iterate_of_goOn (jump.trans moved) found, runs⟩
    · have stays : staysInJumpedHour t z (WallTime.atHour day h) v = true := by
        rw [staysInJumpedHour_iff, hour_v, date_v, date]
        exact ⟨gap, other, rfl⟩
      have early := settled x member
      have ceiling : never.seconds + 3600 ≤ lastSecond := by decide
      obtain ⟨u, look, date_u, hour_u⟩ :=
        look_on proper rare gaps setbacks nanos (by omega) date_v (by omega)
      have found : step t z firstYear c = .runs u := by
        rw [jump]
        simp [pursue, supported, resolved, stays, look]
      refine ⟨u, iterate_of_runs found (by decide), date_u, Or.inr ⟨h, hour, gap, ?_⟩⟩
      rw [hour_u, hour_v]

/-- From a full hour of the day, the search runs on the day if that hour is named or a later one is. -/
theorem iterate_on {q : Instant} (nanos : q.nanos = 0) (full : (z.wallAt q).count % 3600 = 0)
    (on : (z.wallAt q).dayNumber = day) {h : Nat} (hour : h ∈ t.hours) (later : (z.wallAt q).hour ≤ h) :
    ∃ u, iterate t z firstYear 3 ⟨q, false⟩ = .runs u ∧ RunsOn t z day u := by
  by_cases here : (z.wallAt q).hour ∈ t.hours
  · obtain ⟨u, found, runs⟩ :=
      run_on proper rare gaps setbacks named last years nanos full on here
    exact ⟨u, iterate_mono found (Int.le_refl _) (by decide), runs⟩
  · have ahead : ¬ t.hours.nextFrom (z.wallAt q).hour < (z.wallAt q).hour := fun wraps =>
      Values.not_mem_of_nextFrom_lt proper.hours wraps (Or.inl later) hour
    have jump : step t z firstYear ⟨q, false⟩ =
        pursue t z (.hour day (t.hours.nextFrom (z.wallAt q).hour)) := by
      rcases aim_of_namesDate proper (w := z.wallAt q) (by rw [on]; exact named) with
        ⟨-, aim⟩ | ⟨fits, -⟩
      · rw [step_of_aim (c := ⟨q, false⟩) proper (years _ (Int.le_of_eq on)) aim, hourDay, if_neg ahead,
          on]
      · exact absurd fits here
    obtain ⟨u, found, runs⟩ := pursue_on proper rare gaps setbacks named last years settled closed first
      (Values.nextFrom_mem proper.hours _) jump
    exact ⟨u, iterate_mono found (Int.le_refl _) (by decide), runs⟩

/-- A search that arrives at a full hour of the day runs on the day, if that hour is named or a later one
is. -/
theorem arrive_on {q : Instant} {k h : Nat} (moved : step t z firstYear c = .goOn ⟨q, false⟩)
    (nanos : q.nanos = 0) (shows : z.wallAt q = WallTime.atHour day k) (hour : h ∈ t.hours)
    (later : k ≤ h) : ∃ u, iterate t z firstYear 4 c = .runs u ∧ RunsOn t z day u := by
  have lt := proper.hour_lt _ hour
  obtain ⟨date, hour_eq, -⟩ := @WallTime.atHour_parts day k (by omega)
  have count := WallTime.count_atHour day k
  rw [← shows] at date hour_eq count
  obtain ⟨u, found, runs⟩ := iterate_on proper rare gaps setbacks named last years settled closed first
    nanos (by omega) date hour (by omega)
  exact ⟨u, iterate_of_goOn moved found, runs⟩

omit proper rare gaps setbacks named years settled closed in
/-- An hour before midnight that a gap swallows is moved to midnight, which is another day. -/
theorem pursue_to_midnight {e : Instant} (shows : z.wallAt e = WallTime.atHour day 0)
    (resolved : z.resolve? (WallTime.atHour (day - 1) 23) = some e) :
    pursue t z (.hour (day - 1) 23) = .goOn ⟨e, false⟩ := by
  have supported : (WallTime.atHour (day - 1) 23).isSupported = true := by
    rw [WallTime.isSupported_iff, WallTime.count_atHour]
    omega
  have leaves : staysInJumpedHour t z (WallTime.atHour (day - 1) 23) e = false := by
    apply Bool.eq_false_iff.2
    intro stays
    have same := (staysInJumpedHour_iff.1 stays).2.2
    rw [shows, (WallTime.atHour_parts day (show 0 < 24 by decide)).1,
      (WallTime.atHour_parts (day - 1) (show 23 < 24 by decide)).1] at same
    omega
  simp [pursue, supported, resolved, leaves]

variable (kept : ∀ e, ¬ LeaptOver t e) (eve : z.LastMinuteBefore day now)

omit rare gaps setbacks years settled closed first last in
include kept eve in
/-- From a date that is not named, the search moves on to the day. -/
theorem aim_of_eve (unnamed : t.namesDate (day - 1) = false) : aim? t (z.wallAt now) = some (.day day) := by
  have date := eve.date
  have shown := (z.wallAt now).count_eq
  have hour_lt := (z.wallAt now).hour_lt
  have minute_lt := (z.wallAt now).minute_lt
  have second_lt := (z.wallAt now).second_lt
  obtain ⟨n, aim⟩ : ∃ n, aim? t (z.wallAt now) = some (.day n) := by
    rcases aim_cases proper (z.wallAt now) with ⟨-, aim⟩ | ⟨-, -, aim⟩ | ⟨other, -⟩ | ⟨other, -⟩
    · exact ⟨_, aim⟩
    · exact ⟨_, aim⟩
    · rw [date, unnamed] at other
      cases other
    · rw [date, unnamed] at other
      cases other
  have ahead := (aim_ahead proper aim).1
  rw [Aim.wall, WallTime.count_ofDay] at ahead
  have reached : n ≤ day := by
    apply Int.not_lt.1
    intro beyond
    obtain ⟨v, on, named'⟩ := Timetable.exists_names proper named
    have shown' := v.count_eq
    have hour_lt' := v.hour_lt
    have minute_lt' := v.minute_lt
    have second_lt' := v.second_lt
    apply kept v.date
    apply aim_passes proper aim (by omega) _ named'
    rw [Aim.wall, WallTime.count_ofDay]
    omega
  obtain rfl : n = day := by omega
  exact aim

omit rare gaps setbacks named last years settled closed first in
include eve in
/-- In the last minute of its hour, the look at the minutes moves on to the end of it. -/
theorem minuteStep_eve {e : Instant} (minute : (z.wallAt now).minute = 59)
    (seconds : e.seconds = z.minuteStart now + 60) (nanos : e.nanos = 0)
    (floor : firstSecond ≤ z.minuteStart now) : minuteStep t z ⟨now, true⟩ = .goOn ⟨e, false⟩ := by
  have bounds := minuteStart_bounds z now
  have place : z.minuteStart now = now.seconds - (z.wallAt now).second := rfl
  have second := (z.wallAt now).second_eq
  have shown := (z.wallAt now).minute_eq
  have count : (z.wallAt now).count = now.seconds + z.offsetAt now.seconds := rfl
  have le_last := now.le_lastSecond
  obtain ⟨start, at_start⟩ := @Instant.exists_at (z.minuteStart now) floor (by omega)
  have same : z.offsetAt start.seconds = z.offsetAt now.seconds := by
    apply Zone.offsetAt_eq (by omega)
    intro x member
    rcases eve.undisturbed x member with before | behind <;> omega
  have count' : (z.wallAt start).count = start.seconds + z.offsetAt start.seconds := rfl
  have shown' := (z.wallAt start).minute_eq
  have minute' : (z.wallAt start).minute = 59 := by omega
  have next_lt := proper.minute_lt _ (Values.nextFrom_mem proper.minutes 59)
  have moved : addMinutes? start 1 = some e := addMinutes_eq_some.2 (by omega)
  have start_eq : startOfMinute? z now = some start := startOfMinute_eq_some.2 at_start
  rw [minuteStep_eq (c := ⟨now, true⟩) start_eq, minute']
  split
  · rw [moved]
    rfl
  · rename_i other
    have wraps : t.minutes.nextFrom 59 < 59 := by
      have : t.minutes.nextFrom 59 ≠ 59 := fun same => other ⟨same, rfl⟩
      omega
    rw [if_pos wraps, moved]
    rfl

omit rare gaps setbacks named last years settled closed first in
/-- When the last named hour of a date has passed, the search goes on to the first of the next one. -/
theorem aim_wraps {w : WallTime} (date : t.namesDate w.dayNumber = true)
    (passed : ∀ h ∈ t.hours, h < w.hour) :
    aim? t w = some (.hour (w.dayNumber + 1) (t.hours.nextFrom 0)) := by
  have least := Values.nextFrom_of_all_lt proper.hours passed
  have wraps := passed _ (Values.nextFrom_mem proper.hours 0)
  rcases aim_of_namesDate proper date with ⟨-, aim⟩ | ⟨hour, -⟩
  · rw [aim, hourDay, least, if_pos wraps]
  · exact absurd (passed _ hour) (Nat.lt_irrefl _)

include eve

/-- When the last named hour of the date before has passed, the search runs on the day. -/
theorem runsOn_of_passed (eve_named : t.namesDate (day - 1) = true)
    (passed : ∀ h ∈ t.hours, h < (z.wallAt now).hour) :
    ∃ u, iterate t z firstYear 4 ⟨now, true⟩ = .runs u ∧ RunsOn t z day u := by
  have date := eve.date
  rw [← date] at eve_named
  have jump := step_of_aim (c := ⟨now, true⟩) proper (years (z.wallAt now) (by omega))
    (aim_wraps proper eve_named passed)
  rw [date, Int.sub_add_cancel] at jump
  obtain ⟨u, found, runs⟩ := pursue_on proper rare gaps setbacks named last years settled closed first
    (Values.nextFrom_mem proper.hours 0) jump
  exact ⟨u, iterate_mono found (Int.le_refl _) (by decide), runs⟩

/-- From the last minute of a date that is named, too, the search runs on the day. -/
theorem runsOn_of_named_eve (eve_named : t.namesDate (day - 1) = true) :
    ∃ u, iterate t z firstYear 4 ⟨now, true⟩ = .runs u ∧ RunsOn t z day u := by
  obtain ⟨minute, e, seconds, nanos, dawn⟩ := exists_dayBreak rare settled gaps first last eve
  have date := eve.date
  have within := years (z.wallAt now) (by omega)
  have arrive := @arrive_on t z firstYear day ⟨now, true⟩ proper rare gaps setbacks named last years
    settled closed first e
  have passed := runsOn_of_passed proper rare gaps setbacks named last years settled closed first eve
    eve_named
  rw [← date] at eve_named
  by_cases fits : (z.wallAt now).hour ∈ t.hours
  · have floor : firstSecond ≤ z.minuteStart now := by
      have bounds := minuteStart_bounds z now
      have bounds' := Zone.offsetAt_bounds rare now.seconds
      have count : (z.wallAt now).count = now.seconds + z.offsetAt now.seconds := rfl
      have number : (z.wallAt now).dayNumber = (z.wallAt now).count / 86400 := rfl
      omega
    have moved : step t z firstYear ⟨now, true⟩ = .goOn ⟨e, false⟩ := by
      rw [step_of_fits (c := ⟨now, true⟩) proper within
        ((aim_eq_none_iff proper).2 ⟨eve_named, fits⟩)]
      exact minuteStep_eve proper eve minute seconds nanos floor
    cases dawn with
    | midnight hour shows => exact arrive moved nanos shows fits (Nat.zero_le _)
    | early hour shows => exact arrive moved nanos shows fits (Nat.zero_le _)
    | swallowed hour shows =>
      rw [hour] at fits
      exact arrive moved nanos shows fits (by decide)
  · have others : ∀ h ∈ t.hours, h < 24 ∧ h ≠ (z.wallAt now).hour := by
      intro h member
      refine ⟨proper.hour_lt h member, ?_⟩
      rintro rfl
      exact fits member
    cases dawn with
    | midnight hour =>
      apply passed
      intro h member
      have := others h member
      omega
    | swallowed hour =>
      apply passed
      intro h member
      have := others h member
      omega
    | early hour shows gap resolved =>
      by_cases late : 23 ∈ t.hours
      · have next : t.hours.nextFrom 22 = 23 := by
          rw [← Values.nextFrom_of_none_between proper.hours (show 22 ≤ 23 by decide)
            fun h member le => by
              have := others h member
              omega]
          exact (Values.nextFrom_eq_self_iff proper.hours).2 late
        have aim : aim? t (z.wallAt now) = some (.hour (day - 1) 23) := by
          rcases aim_of_namesDate proper eve_named with ⟨-, aim⟩ | ⟨hour', -⟩
          · rw [aim, hourDay, hour, next, if_neg (by decide), date]
          · exact absurd hour' fits
        have moved := (step_of_aim (c := ⟨now, true⟩) proper within aim).trans
          (pursue_to_midnight last first shows resolved)
        exact arrive moved nanos shows late (Nat.zero_le _)
      · apply passed
        intro h member
        have := others h member
        have : h ≠ 23 := by
          rintro rfl
          exact late member
        omega

include kept

/-- From the last minute of a date that is not named, the search runs on the day, unless it is lost. -/
theorem runsOn_of_unnamed_eve (eve_named : t.namesDate (day - 1) = false)
    (found : ¬ LosesDay t z day) :
    ∃ u, iterate t z firstYear 4 ⟨now, true⟩ = .runs u ∧ RunsOn t z day u := by
  obtain ⟨-, e, -, nanos, dawn⟩ := exists_dayBreak rare settled gaps first last eve
  have date := eve.date
  have aim := aim_of_eve proper named kept eve eve_named
  have jump := step_of_aim (c := ⟨now, true⟩) proper (years (z.wallAt now) (by omega)) aim
  have supported : (WallTime.ofDay day 0).isSupported = true := by
    rw [WallTime.isSupported_iff, WallTime.count_ofDay]
    omega
  have arrive : ∀ (q : Instant) (k h : Nat), z.resolve? (WallTime.atHour day 0) = some q →
      z.wallAt q = WallTime.atHour day k → h ∈ t.hours → k ≤ h →
      ∃ u, iterate t z firstYear 4 ⟨now, true⟩ = .runs u ∧ RunsOn t z day u := by
    intro q k h resolved shows hour later
    have start := startOfSupportedDay_eq_some.2 ⟨supported, resolved⟩
    apply arrive_on proper rare gaps setbacks named last years settled closed first _
      (Zone.resolve_nanos resolved) shows hour later
    rw [jump]
    simp only [pursue, start, goOnAt]
  have from_midnight : z.wallAt e = WallTime.atHour day 0 →
      ∃ u, iterate t z firstYear 4 ⟨now, true⟩ = .runs u ∧ RunsOn t z day u := by
    intro shows
    have count := WallTime.count_atHour day 0
    obtain ⟨-, q, resolved, showing⟩ := Zone.resolve_of_shown rare shows (by omega)
    exact arrive q 0 _ resolved showing.shows (Values.nextFrom_mem proper.hours 0) (Nat.zero_le _)
  cases dawn with
  | midnight hour shows => exact from_midnight shows
  | early hour shows => exact from_midnight shows
  | swallowed hour shows gap resolved =>
    obtain ⟨h, member, other⟩ : ∃ h ∈ t.hours, h ≠ 0 := by
      apply Classical.byContradiction
      intro none
      apply found
      refine ⟨gap, ?_, eve_named⟩
      intro h member
      apply Decidable.byContradiction
      intro other
      exact none ⟨h, member, other⟩
    exact arrive e 1 h resolved shows member (by omega)

/-- From the last minute before a day, the search runs on it, unless the day is lost. -/
theorem runsOn_of_eve (found : ¬ LosesDay t z day) :
    ∃ u, iterate t z firstYear 4 ⟨now, true⟩ = .runs u ∧ RunsOn t z day u := by
  cases eve_named : t.namesDate (day - 1) with
  | true =>
    exact runsOn_of_named_eve proper rare gaps setbacks named last years settled closed first eve
      eve_named
  | false =>
    exact runsOn_of_unnamed_eve proper rare gaps setbacks named last years settled closed first kept eve
      eve_named found

end

end Search
end CronCalendar
