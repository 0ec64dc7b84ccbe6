import CronCalendar.Proofs.Search.NewDays
import CronCalendar.Zone.Table.Africa

/-!
# Days that are lost

When a jump to a day arrives behind its first hour, and midnight is the only hour that is named, the search
goes on to the next day: from there on every candidate is behind the end of the day (`Behind`), and so is the
run (`late_of_run`). `runsOn_unless_lost` puts this together with the days that are not lost.
-/

namespace CronCalendar
set_option autoImplicit false

/-- The offsets of the zone differ by a day at most. -/
def Zone.WithinADay (z : Zone) : Prop := ∀ t u : Int, z.offsetAt t ≤ z.offsetAt u + 86400

theorem Zone.withinADay_of_bounds {z : Zone} {lo : Int}
    (initial : lo ≤ z.initial.offset ∧ z.initial.offset ≤ lo + 86400)
    (offsets : ∀ a ∈ z.transitions, lo ≤ a.type.offset ∧ a.type.offset ≤ lo + 86400) : z.WithinADay := by
  have bounds : ∀ t, lo ≤ z.offsetAt t ∧ z.offsetAt t ≤ lo + 86400 := by
    intro t
    unfold offsetAt typeAt
    rcases @typeFrom_mem z.initial z.transitions t with h | ⟨a, member, h⟩
    · rw [h]
      exact initial
    · rw [h]
      exact offsets a member
  intro t u
  have := bounds t
  have := bounds u
  omega

namespace Search

variable {t : Timetable} {z : Zone} {firstYear day : Int} {b c c' : Candidate} {now e u : Instant}
  {x : Transition}

/-- A transition that swallows the first hour of a day. -/
structure SwallowsMidnight (z : Zone) (day : Int) (x : Transition) : Prop where
  member : x ∈ z.transitions
  reading : x.since + z.offsetAt (x.since - 1) = 86400 * day
  wide : z.offsetAt x.since = z.offsetAt (x.since - 1) + 3600

section
variable (rare : z.RarelyChanged) (swallows : SwallowsMidnight z day x)
include rare swallows

/-- Once the day is over, the clock shows a later one. -/
theorem late_reading (within : z.WithinADay) {q : Int} (late : x.since + 82800 ≤ q) :
    86400 * (day + 1) ≤ q + z.offsetAt q := by
  have reading := swallows.reading
  have wide := swallows.wide
  by_cases near : q ≤ x.since + 172800
  · rw [Zone.offsetAt_behind rare swallows.member (by omega) near]
    omega
  · have := within x.since q
    omega

/-- A wall time of a later day is resolved to an instant at which the day is over. -/
theorem late_of_resolve (settled : z.Settled) {w : WallTime} (resolved : z.resolve? w = some u)
    (later : 86400 * (day + 1) ≤ w.count) : x.since + 82800 ≤ u.seconds := by
  have reading := swallows.reading
  have wide := swallows.wide
  have bounds := Zone.offsetAt_bounds rare (x.since - 1)
  rcases Zone.resolve_eq_some resolved with shown | ⟨gap, -⟩
  · have count : w.count = u.seconds + z.offsetAt u.seconds := by
      rw [← (Zone.firstShowing_eq_some shown).2.1]
      rfl
    apply Int.not_lt.1
    intro early
    rcases Int.lt_or_le u.seconds x.since with before | behind
    · have := Zone.reading_before rare swallows.member before
      omega
    · rw [Zone.offsetAt_behind rare swallows.member behind (by omega)] at count
      omega
  · obtain ⟨a, member, begun, before, -⟩ := Zone.gap_of_resolve rare gap resolved fun a member => by
      have := (settled a member).2
      have : never.seconds ≤ lastSecond := by decide
      omega
    have bounds' := Zone.offsetAt_bounds rare a.since
    by_cases near : a.since ≤ x.since + 172800 ∧ x.since ≤ a.since + 172800
    · rw [Zone.eq_of_near rare member swallows.member near.1 near.2] at before
      omega
    · omega

/-- The minutes of a later day are behind the day. -/
theorem late_minuteStart (late : x.since + 82800 ≤ u.seconds) : x.since + 82800 ≤ z.minuteStart u := by
  have reading := swallows.reading
  have wide := swallows.wide
  have bounds := minuteStart_bounds z u
  by_cases near : u.seconds ≤ x.since + 172800
  · have second := (z.wallAt u).second_eq
    have count := Zone.count_behind rare swallows.member (v := u) (by omega) near
    unfold Zone.minuteStart
    omega
  · omega

omit rare swallows in
/-- The look at the minutes goes on behind the candidate. -/
theorem le_of_minuteStep_goOn (moved : minuteStep t z b = .goOn c') :
    b.instant.seconds ≤ c'.instant.seconds := by
  obtain ⟨-, start, found, next⟩ := minuteStep_goOn moved
  have seconds := (startOfMinute_eq_some.1 found).1
  have second_lt := (z.wallAt b.instant).second_lt
  have minute_lt := (z.wallAt start).minute_lt
  rcases next with ⟨-, -, next⟩ | ⟨-, next⟩
  · have := (addMinutes_eq_some.1 next).1
    omega
  · have := (addMinutes_eq_some.1 next).1
    omega

/-- A run that is found when the day is over comes when it is over. -/
theorem late_minuteStep_runs (late : x.since + 82800 ≤ b.instant.seconds)
    (found : minuteStep t z b = .runs u) : x.since + 82800 ≤ u.seconds := by
  obtain ⟨start, start_eq, -, -, moved⟩ := minuteStep_runs found
  have seconds := (startOfMinute_eq_some.1 start_eq).1
  have seconds_u := (addMinutes_eq_some.1 moved).1
  have := late_minuteStart rare swallows late
  unfold Zone.minuteStart at this
  omega

/-- A candidate of a search that loses a day: the start, the arrival behind the first hour of the day, or one
for which the day is over. -/
inductive Behind (x : Transition) (now e : Instant) : Candidate → Prop
  | start : Behind x now e ⟨now, true⟩
  | arrival : Behind x now e ⟨e, false⟩
  | gone {c : Candidate} (late : x.since + 82800 ≤ c.instant.seconds) : Behind x now e c

variable (proper : t.Proper) (within : z.WithinADay)
  (aim : aim? t (z.wallAt now) = some (.day day))
  (aim_e : ∃ h, aim? t (z.wallAt e) = some (.hour (day + 1) h))
include proper within aim aim_e

/-- What a search that loses a day aims at. -/
theorem Behind.late_aim (behind : Behind x now e c) {a : Aim}
    (aims : aim? t (z.wallAt c.instant) = some a) :
    c = ⟨now, true⟩ ∧ a = .day day ∨ 86400 * (day + 1) ≤ a.wall.count := by
  cases behind with
  | start => exact Or.inl ⟨rfl, Option.some.inj (aims.symm.trans aim)⟩
  | arrival =>
    obtain ⟨h, aim_e⟩ := aim_e
    obtain rfl := Option.some.inj (aims.symm.trans aim_e)
    right
    rw [Aim.wall, WallTime.count_atHour]
    omega
  | gone late =>
    have := (aim_ahead proper aims).1
    have := late_reading rare swallows within late
    have count : (z.wallAt c.instant).count = c.instant.seconds + z.offsetAt c.instant.seconds := rfl
    right
    omega

variable (settled : z.Settled)
include settled

/-- Where a search that loses a day looks at the minutes, the day is over. -/
theorem Behind.looks (behind : Behind x now e c) (looks : Looks t z c b) :
    x.since + 82800 ≤ b.instant.seconds := by
  cases looks with
  | stands none =>
    cases behind with
    | start => exact nomatch none.symm.trans aim
    | arrival =>
      obtain ⟨h, aim_e⟩ := aim_e
      exact nomatch none.symm.trans aim_e
    | gone late => exact late
  | jumped aims supported resolved' stays =>
    rcases behind.late_aim rare swallows proper within aim aim_e aims with
      ⟨-, other⟩ | later
    · cases other
    · exact late_of_resolve rare swallows settled resolved' later

variable (resolved : z.resolve? (WallTime.atHour day 0) = some e)
include resolved

/-- A step of a search that loses a day. -/
theorem Behind.step (behind : Behind x now e c) (moved : step t z firstYear c = .goOn c') :
    Behind x now e c' := by
  rcases step_goOn proper moved with ⟨a, aims, supported, resolved', touched⟩ | ⟨b, looks, moved⟩
  · rcases behind.late_aim rare swallows proper within aim aim_e aims with
      ⟨-, rfl⟩ | later
    · obtain ⟨target, untouched⟩ := c'
      obtain rfl : untouched = false := touched
      obtain rfl : target = e := Option.some.inj (resolved'.symm.trans resolved)
      exact .arrival
    · exact .gone (late_of_resolve rare swallows settled resolved' later)
  · have late := behind.looks rare swallows proper within aim aim_e settled looks
    exact .gone (Int.le_trans late (le_of_minuteStep_goOn moved))

/-- The run of a search that loses a day comes when the day is over. -/
theorem late_of_run (found : run? t z now = some u) : x.since + 82800 ≤ u.seconds := by
  obtain ⟨last, behind, runs⟩ := exists_last_step (Behind x now e)
    (fun _ _ behind moved =>
      behind.step rare swallows proper within aim aim_e settled resolved moved)
    .start (run_eq_some.1 found)
  obtain ⟨b, looks, found⟩ := step_runs proper runs
  exact late_minuteStep_runs rare swallows
    (behind.looks rare swallows proper within aim aim_e settled looks) found

end

end Search

namespace Schedule

open Search (RunsOn LosesDay)

variable {s : Schedule} {z : Zone} {day : Int} {now : Instant}

/-- A lost day is not run on. -/
theorem not_runsOn_of_loses (satisfiable : s.isSatisfiable = true)
    (kept : ∀ e, ¬ Search.LeaptOver s.timetable e) (rare : z.RarelyChanged) (settled : z.Settled)
    (gaps : z.GapsOfAnHour) (within : z.WithinADay) (named : s.timetable.namesDate day = true)
    (first : firstSecond + 259200 ≤ 86400 * day) (last : 86400 * day + 259200 ≤ lastSecond)
    (eve : z.LastMinuteBefore day now) (loses : LosesDay s.timetable z day) :
    ¬ RunsOn s.timetable z day (s.nextRun z now) := by
  have proper := timetable_proper satisfiable
  obtain ⟨-, e, -, -, dawn⟩ := Search.exists_dayBreak rare settled gaps first last eve
  have count := WallTime.count_atHour day 0
  have unshown : z.wallAt e ≠ WallTime.atHour day 0 :=
    Zone.wallAt_ne_of_isInGap rare loses.gap (by omega) e
  cases dawn with
  | midnight hour shows => exact absurd shows unshown
  | early hour shows => exact absurd shows unshown
  | swallowed hour shows gap resolved =>
    obtain ⟨x, member, u, reading, wide, resolved', at_u, -⟩ :=
      Zone.exists_gap rare gaps (w := WallTime.atHour day 0) (by omega) gap (by omega) (by omega)
    have swallows : Search.SwallowsMidnight z day x := ⟨member, by omega, wide⟩
    have past : ∀ v : Instant, x.since + 82800 ≤ v.seconds → ¬ RunsOn s.timetable z day v := by
      intro v late runs
      have reading := Search.late_reading rare swallows within late
      have date := runs.date
      have number : (z.wallAt v).dayNumber = (v.seconds + z.offsetAt v.seconds) / 86400 := rfl
      omega
    obtain ⟨date_e, hour_e, -⟩ := WallTime.atHour_parts day (show 1 < 24 by decide)
    rw [← shows] at date_e hour_e
    have aim_e := Search.aim_wraps proper (w := z.wallAt e) (by rw [date_e]; exact named) (by
      intro h member
      rw [loses.midnight h member, hour_e]
      decide)
    rw [date_e] at aim_e
    have aim := Search.aim_of_eve proper named kept eve loses.eve
    cases found : Search.run? s.timetable z now with
    | some v =>
      rw [nextRun_of_run satisfiable found]
      exact past v (Search.late_of_run rare swallows proper within aim ⟨_, aim_e⟩ settled resolved found)
    | none =>
      have stops : s.nextRun z now = never := by
        rw [nextRun, if_pos satisfiable, found]
        rfl
      rw [stops]
      have early := (settled x member).2
      exact past never (by omega)

/-- In a zone whose gaps are an hour wide and begin at full hours, a schedule without days of the month that is
asked in the last minute before a day that it names runs on that day, at a named hour or behind the gap that
swallows one, unless it loses the day; and where the offsets differ by a day at most, it does not run on a
lost day. The zone is rarely changed, and on the day itself clocks are put back at full hours only. -/
theorem runsOn_unless_lost (any : (s.field .day).isAny = true) (satisfiable : s.isSatisfiable = true)
    (rare : z.RarelyChanged) (settled : z.Settled) (gaps : z.GapsOfAnHour)
    (setbacks : z.SetBackAtFullHours day) (named : s.timetable.namesDate day = true)
    (closed : z.isInGap (WallTime.atHour day 23) = false)
    (first : firstSecond + 259200 ≤ 86400 * day) (last : 86400 * day + 259200 ≤ lastSecond)
    (eve : z.LastMinuteBefore day now) :
    (¬ LosesDay s.timetable z day → RunsOn s.timetable z day (s.nextRun z now)) ∧
      (z.WithinADay → LosesDay s.timetable z day → ¬ RunsOn s.timetable z day (s.nextRun z now)) := by
  have proper := timetable_proper satisfiable
  have kept := Search.not_leaptOver_of_days fun _ => mem_days_of_any any
  constructor
  · intro found
    have years : ∀ w : WallTime, w.dayNumber ≤ day →
        w.date.year ≤ (z.wallAt now).date.year + Search.yearLimit := by
      intro w le
      have date := eve.date
      exact Search.le_yearLimit (WallTime.year_le (by omega))
    obtain ⟨u, run, runs⟩ := Search.runsOn_of_eve proper rare gaps setbacks named last years settled
      closed first kept eve found
    have found : Search.run? s.timetable z now = some u :=
      Search.run_eq_some.2 (Search.iterate_mono run (Int.le_refl _) (by decide))
    rw [nextRun_of_run satisfiable found]
    exact runs
  · intro within loses
    exact not_runsOn_of_loses satisfiable kept rare settled gaps within named first last eve loses

/-- One minute to midnight in Cairo, on the eve of 2024-04-26. -/
def cairoEve : Instant := ⟨1714082340, 0, zero_lt_nanosPerSecond, by decide, by decide⟩

/-- The start of the first minute of that Friday in Cairo, at one o'clock. -/
def cairoMorning : Instant := ⟨1714082400, 0, zero_lt_nanosPerSecond, by decide, by decide⟩

theorem cairo_rarelyChanged : Zone.cairo.RarelyChanged :=
  Zone.rarelyChanged_of_spaced (by decide +kernel) (by decide +kernel) (by decide +kernel)

theorem cairo_gapsOfAnHour : Zone.cairo.GapsOfAnHour := Zone.gapsOfAnHour_of_changes (by decide +kernel)

theorem cairoEve_last : Zone.cairo.LastMinuteBefore 19839 cairoEve where
  date := by decide +kernel
  undisturbed := by decide +kernel
  last := by
    intro m le
    have start : Zone.cairo.minuteStart cairoEve = 1714082340 := by decide +kernel
    have member : ⟨1714082400, ⟨10800, "EEST"⟩⟩ ∈ Zone.cairo.transitions := by decide +kernel
    have new : Zone.cairo.offsetAt 1714082400 = 10800 := by decide +kernel
    have shown := Zone.reading_behind cairo_rarelyChanged member (q := m.seconds) (by simp only; omega)
    simp only [new] at shown
    have number : (Zone.cairo.wallAt m).dayNumber =
        (m.seconds + Zone.cairo.offsetAt m.seconds) / 86400 := rfl
    omega

/-- At midnight on Fridays. -/
def fridayMidnight : Schedule where
  taskId := "rotate"
  fields := { minute := .ofText "0", hour := .ofText "0", dayOfWeek := .ofText "5" }

/-- In the night of 2024-04-26, the gap in Cairo swallows the first hour of Friday. The schedule for every
midnight then runs at one o'clock; the one for midnight on Fridays does not run that day. -/
theorem cairo_runsOn_unless_lost :
    everyMidnight.nextRun Zone.cairo cairoEve = cairoMorning ∧
      RunsOn everyMidnight.timetable Zone.cairo 19839 (everyMidnight.nextRun Zone.cairo cairoEve) ∧
      ¬ RunsOn fridayMidnight.timetable Zone.cairo 19839
        (fridayMidnight.nextRun Zone.cairo cairoEve) := by
  have settled : Zone.cairo.Settled := by
    unfold Zone.Settled
    decide +kernel
  have setbacks : Zone.cairo.SetBackAtFullHours 19839 :=
    Zone.setBackAtFullHours_of_changes (by decide +kernel)
  have closed : Zone.cairo.isInGap (WallTime.atHour 19839 23) = false := by decide +kernel
  refine ⟨by decide +kernel, ?_, ?_⟩
  · apply (runsOn_unless_lost rfl (by decide +kernel) cairo_rarelyChanged settled cairo_gapsOfAnHour
      setbacks (by decide +kernel) closed (by decide) (by decide) cairoEve_last).1
    intro loses
    exact absurd loses.eve (by decide +kernel)
  · apply (runsOn_unless_lost rfl (by decide +kernel) cairo_rarelyChanged settled cairo_gapsOfAnHour
      setbacks (by decide +kernel) closed (by decide) (by decide) cairoEve_last).2
    · exact @Zone.withinADay_of_bounds Zone.cairo 7200 (by decide +kernel) (by decide +kernel)
    · have hours : fridayMidnight.timetable.hours = Values.singleton 0 := by decide +kernel
      refine ⟨by decide +kernel, ?_, by decide +kernel⟩
      intro h member
      rw [hours, Values.mem_singleton] at member
      exact member

/-- The schedule for midnight on Fridays does not run on that Friday, but on the next. -/
theorem fridayMidnight_loses_day :
    fridayMidnight.isSatisfiable = true ∧ fridayMidnight.timetable.namesDate 19839 = true ∧
      Zone.cairo.GapsOfAnHour ∧ Zone.cairo.LastMinuteBefore 19839 cairoEve ∧
      Zone.cairo.isInGap (WallTime.atHour 19839 23) = false ∧
      ∃ next : Instant, fridayMidnight.nextRun Zone.cairo cairoEve = next ∧ next.seconds = 1714683600 ∧
        (Zone.cairo.wallAt next).dayNumber = 19846 := by
  refine ⟨by decide +kernel, by decide +kernel, cairo_gapsOfAnHour, cairoEve_last, by decide +kernel,
    ⟨1714683600, 0, by decide, by decide, by decide⟩, ?_, rfl, ?_⟩
  · decide +kernel
  · decide +kernel

end Schedule
end CronCalendar
