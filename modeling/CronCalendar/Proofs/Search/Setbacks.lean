import CronCalendar.Proofs.Search.Advance
import CronCalendar.Zone.Table.America

/-!
# Schedules that do not advance

A zone that turns back, and is rarely changed, makes a schedule fall back: the schedule for every minute
where it is the move to the next minute (`answer_everyMinute`), the schedule for a full hour of the day
where it is a jump (`answer_daily`). `advances` puts both directions together. Which zones do not turn back
can be told from their tables (`not_turnsBack_of_withinHours`): those whose clocks, where they are put back,
do not pass a full hour.
-/

namespace CronCalendar
set_option autoImplicit false

open Field (Kind)

/-- The transitions keep two days from the first supported second and from the instant that stands for
a run that never comes. -/
def Zone.Settled (z : Zone) : Prop :=
  ∀ a ∈ z.transitions, firstSecond + 172800 ≤ a.since ∧ a.since + 172800 ≤ never.seconds

/-- Every minute. -/
def Schedule.everyMinute : Schedule := { taskId := "tick" }

/-- Every day at a full hour. -/
def Schedule.daily (hour : Nat) : Schedule where
  taskId := "tick"
  fields := { minute := .values (Values.singleton 0), hour := .values (Values.singleton hour) }

namespace Search

/-- A timetable whose days and months are not restricted names every date. -/
theorem namesDate_of_any {s : Schedule} (day : s.field .day = .any) (month : s.field .month = .any)
    (weekday : s.field .dayOfWeek = .any) (n : Int) : s.timetable.namesDate n = true := by
  have valid := Date.isValid_iff.1 (Date.isValid_ofDayNumber n)
  have bounds := Date.daysInMonth_bounds (Date.ofDayNumber n).year (Date.ofDayNumber n).month
  rw [Timetable.namesDate_iff, Timetable.namesDay_iff]
  constructor
  · show _ ∈ Kind.month.evaluate (s.field .month)
    rw [month, Kind.mem_evaluate_any]
    exact ⟨valid.1, valid.2.1⟩
  · left
    constructor
    · show (s.field .dayOfWeek).isAny = true
      rw [weekday]
      rfl
    · show _ ∈ Kind.day.evaluate (s.field .day)
      rw [day, Kind.mem_evaluate_any]
      exact ⟨valid.2.2.1, Nat.le_trans valid.2.2.2 bounds.2⟩

theorem everyMinute_satisfiable : Schedule.everyMinute.isSatisfiable = true := by decide +kernel

theorem mem_daily_hours {hour h : Nat} (lt : hour < 24) :
    h ∈ (Schedule.daily hour).timetable.hours ↔ h = hour := by
  show h ∈ (Values.singleton hour).within 0 23 ↔ _
  rw [Values.mem_within, Values.mem_singleton]
  omega

theorem mem_daily_minutes (hour : Nat) {m : Nat} : m ∈ (Schedule.daily hour).timetable.minutes ↔ m = 0 := by
  show m ∈ (Values.singleton 0).within 0 59 ↔ _
  rw [Values.mem_within, Values.mem_singleton]
  omega

theorem daily_satisfiable {hour : Nat} (lt : hour < 24) :
    (Schedule.daily hour).isSatisfiable = true := by
  rw [Schedule.isSatisfiable_iff]
  intro kind
  cases kind with
  | minute => exact Values.isEmpty_eq_false_iff.2 ⟨0, (mem_daily_minutes hour).2 rfl⟩
  | hour => exact Values.isEmpty_eq_false_iff.2 ⟨hour, (mem_daily_hours lt).2 rfl⟩
  | day => exact Kind.evaluate_any_nonempty .day
  | month => exact Kind.evaluate_any_nonempty .month
  | dayOfWeek => exact Kind.evaluate_any_nonempty .dayOfWeek

variable {z : Zone} {c u v : Instant} {w : WallTime}

/-- Every minute fits, so a step of the schedule for every minute looks at the minutes. -/
theorem aim_everyMinute (w : WallTime) : aim? Schedule.everyMinute.timetable w = none := by
  rw [aim_eq_none_iff (Schedule.timetable_proper everyMinute_satisfiable)]
  exact ⟨namesDate_of_any rfl rfl rfl _,
    Kind.mem_evaluate_any.2 ⟨Nat.zero_le _, Nat.le_of_lt_succ w.hour_lt⟩⟩

theorem nextFrom_everyMinute (w : WallTime) :
    Schedule.everyMinute.timetable.minutes.nextFrom w.minute = w.minute := by
  rw [Values.nextFrom_eq_self_iff (Schedule.timetable_proper everyMinute_satisfiable).minutes]
  exact Kind.mem_evaluate_any.2 ⟨Nat.zero_le _, Nat.le_of_lt_succ w.minute_lt⟩

/-- A move to the next minute that does not get past its start makes the schedule for every minute
find a run that is not ahead. -/
theorem answer_everyMinute (start : startOfMinute? z c = some v) (next : addMinutes? v 1 = some u)
    (year : (z.wallAt u).date.year ≤ (z.wallAt c).date.year + 1) :
    ∃ x, Schedule.everyMinute.answer z c = .ok x ∧ x.seconds = z.minuteStart u ∧ x.nanos = 0 := by
  have proper := Schedule.timetable_proper everyMinute_satisfiable
  have bounds := minuteStart_bounds z u
  have first := v.firstSecond_le
  have last := u.le_lastSecond
  have seconds := (addMinutes_eq_some.1 next).1
  obtain ⟨x, found⟩ := @Instant.exists_ofSeconds (z.minuteStart u) (by omega) (by omega)
  have moved : step Schedule.everyMinute.timetable z (z.wallAt c).date.year ⟨c, true⟩ =
      .goOn ⟨u, false⟩ := by
    rw [step_of_fits (c := ⟨c, true⟩) proper (le_yearLimit (Int.le_add_one (Int.le_refl _)))
      (aim_everyMinute (z.wallAt c))]
    simp [minuteStep, start, nextFrom_everyMinute, next, goOnAt]
  have runs : step Schedule.everyMinute.timetable z (z.wallAt c).date.year ⟨u, false⟩ = .runs x := by
    have start' : startOfMinute? z u = some x := found
    have stay : addMinutes? x 0 = some x := addMinutes_eq_some.2 ⟨by omega, rfl⟩
    rw [step_of_fits (c := ⟨u, false⟩) proper (le_yearLimit year) (aim_everyMinute (z.wallAt u))]
    simp [minuteStep, start', nextFrom_everyMinute, stay]
  refine ⟨x, ?_, Instant.ofSeconds_eq_some_iff.1 found⟩
  apply Schedule.answer_of_ending (n := 2) everyMinute_satisfiable (by decide)
  exact ending_of_goOn (lacksDate_of_fits (aim_everyMinute _)) moved
    (ending_of_runs (lacksDate_of_fits (aim_everyMinute _)) runs Nat.zero_lt_one)

theorem nextFrom_daily_hours {hour : Nat} (lt : hour < 24) (h : Nat) :
    (Schedule.daily hour).timetable.hours.nextFrom h = hour :=
  (mem_daily_hours lt).1
    (Values.nextFrom_mem (Schedule.timetable_proper (daily_satisfiable lt)).hours h)

theorem nextFrom_daily_minutes {hour : Nat} (lt : hour < 24) :
    (Schedule.daily hour).timetable.minutes.nextFrom 0 = 0 :=
  (mem_daily_minutes hour).1
    (Values.nextFrom_mem (Schedule.timetable_proper (daily_satisfiable lt)).minutes 0)

/-- In the second before a full hour, the schedule for every day at that hour aims at it. -/
theorem aim_daily {w' : WallTime} (full : w.count % 3600 = 0) (before : w'.count = w.count - 1) :
    aim? (Schedule.daily w.hour).timetable w' = some (.hour w.dayNumber w.hour) := by
  have lt := w.hour_lt
  have proper := Schedule.timetable_proper (daily_satisfiable lt)
  have named := namesDate_of_any (s := Schedule.daily w.hour) rfl rfl rfl
  have count := w.count_eq
  have minute := w.minute_eq
  have second := w.second_eq
  have count' := w'.count_eq
  have hour_lt := w'.hour_lt
  have minute_lt := w'.minute_lt
  have second_lt := w'.second_lt
  rcases aim_of_namesDate proper (named w'.dayNumber) with ⟨-, aim⟩ | ⟨hour, -⟩
  · rw [aim, hourDay, nextFrom_daily_hours lt]
    congr 2
    split <;> omega
  · have := (mem_daily_hours lt).1 hour
    omega

/-- From there, it finds its run at the first instant that shows the hour. -/
theorem answer_daily (full : w.count % 3600 = 0) (supported : w.isSupported = true)
    (inside : firstSecond < w.count) (shown : z.firstShowing? w = some u)
    (before : (z.wallAt c).count = w.count - 1) :
    (Schedule.daily w.hour).answer z c = .ok u := by
  have lt := w.hour_lt
  have proper := Schedule.timetable_proper (daily_satisfiable lt)
  obtain ⟨nanos, wall, -⟩ := Zone.firstShowing_eq_some shown
  have aim := aim_daily full before
  have target := WallTime.atHour_of_full full
  have moved : step (Schedule.daily w.hour).timetable z (z.wallAt c).date.year ⟨c, true⟩ =
      .goOn ⟨u, false⟩ := by
    have resolved : z.resolve? w = some u := by
      rw [Zone.resolve?, shown]
    have stays : staysInJumpedHour (Schedule.daily w.hour).timetable z w u = false := by
      simp [staysInJumpedHour, Zone.isInGap, shown]
    rw [step_of_aim (c := ⟨c, true⟩) proper (le_yearLimit (Int.le_add_one (Int.le_refl _))) aim]
    simp [pursue, target, supported, resolved, stays]
  have fits : aim? (Schedule.daily w.hour).timetable (z.wallAt u) = none := by
    rw [wall]
    exact (aim_eq_none_iff proper).2 ⟨namesDate_of_any rfl rfl rfl _, (mem_daily_hours lt).2 rfl⟩
  have runs : step (Schedule.daily w.hour).timetable z (z.wallAt c).date.year ⟨u, false⟩ = .runs u := by
    have year : (z.wallAt u).date.year ≤ (z.wallAt c).date.year + 1 := by
      have day : w.dayNumber = w.count / 86400 := rfl
      have day' : (z.wallAt c).dayNumber = (z.wallAt c).count / 86400 := rfl
      apply WallTime.year_le
      rw [wall]
      omega
    rw [step_of_fits (c := ⟨u, false⟩) proper (le_yearLimit year) fits]
    apply (minuteStep_fullHour_iff nanos (by rw [wall]; exact full)).2
    rw [nextFrom_daily_minutes lt]
    exact ⟨by omega, nanos⟩
  have told : lacksDate (Schedule.daily w.hour).timetable z (z.wallAt c).date.year ⟨c, true⟩ = false := by
    have last := (WallTime.isSupported_iff.1 supported).2
    apply lacksDate_of_shown (c := ⟨c, true⟩) aim
    · apply Bool.eq_false_iff.2
      rw [Ne, isOutOfRange_iff]
      simp only
      omega
    · show z.isInGap (WallTime.atHour w.dayNumber w.hour) = false
      rw [target, Zone.isInGap, shown]
      rfl
  have told' : lacksDate (Schedule.daily w.hour).timetable z (z.wallAt c).date.year ⟨u, false⟩ = false :=
    lacksDate_of_fits (c := ⟨u, false⟩) fits
  apply Schedule.answer_of_ending (n := 2) (daily_satisfiable lt) (by decide)
  exact ending_of_goOn told moved (ending_of_runs told' runs Nat.zero_lt_one)

/-- Not before an instant, some schedule is answered a next run that is not behind its start. -/
def FallsBackFrom (z : Zone) (c : Instant) : Prop :=
  ∃ (s : Schedule) (now next : Instant), c ≤ now ∧ s.answer z now = .ok next ∧ next ≠ never ∧ ¬ now < next

theorem fallsBackFrom_of_answer {s : Schedule} {now : Instant} (le : c ≤ now)
    (answered : s.answer z now = .ok u) (back : u.seconds ≤ now.seconds) (nanos : u.nanos = 0)
    (early : now.seconds < never.seconds) : FallsBackFrom z c := by
  refine ⟨s, now, u, le, answered, ?_, ?_⟩
  · rintro rfl
    omega
  · rw [Instant.lt_iff]
    omega

section
variable (rare : z.RarelyChanged) (settled : z.Settled)
include rare settled

theorem fallsBack_of_minute (start : startOfMinute? z c = some v) (next : addMinutes? v 1 = some u)
    (back : z.minuteStart u ≤ c.seconds) : FallsBackFrom z c := by
  obtain ⟨at_v, -⟩ := startOfMinute_eq_some.1 start
  obtain ⟨at_u, -⟩ := addMinutes_eq_some.1 next
  have second := (z.wallAt c).second_eq
  have second' := (z.wallAt u).second_eq
  have count : (z.wallAt c).count = c.seconds + z.offsetAt c.seconds := rfl
  have count' : (z.wallAt u).count = u.seconds + z.offsetAt u.seconds := rfl
  have bounds := Zone.offsetAt_bounds rare c.seconds
  have bounds' := Zone.offsetAt_bounds rare u.seconds
  have change : z.offsetAt c.seconds ≠ z.offsetAt u.seconds := by
    intro same
    unfold Zone.minuteStart at back
    omega
  obtain ⟨a, member, after, -⟩ := Zone.exists_transition (by omega) change
  have late := (settled a member).2
  obtain ⟨x, answered, at_x, nanos⟩ := answer_everyMinute start next (by
    apply WallTime.year_le
    unfold WallTime.dayNumber secondsPerDay
    omega)
  exact fallsBackFrom_of_answer (Instant.lt_irrefl c) answered (by omega) nanos (by omega)

/-- Where a full hour has been shown before the clock was put back, the schedule for that hour falls
back from the second before it is shown again. -/
theorem fallsBack_of_shown (full : w.count % 3600 = 0) (supported : w.isSupported = true)
    (later : (z.wallAt c).count < w.count) (shown : z.firstShowing? w = some u)
    (back : z.minuteStart u ≤ c.seconds) : FallsBackFrom z c := by
  obtain ⟨nanos, wall, -⟩ := Zone.firstShowing_eq_some shown
  have second := w.second_eq
  have count : (z.wallAt c).count = c.seconds + z.offsetAt c.seconds := rfl
  have count' : w.count = u.seconds + z.offsetAt u.seconds := by
    rw [← wall]
    rfl
  have bounds := Zone.offsetAt_bounds rare c.seconds
  have bounds' := Zone.offsetAt_bounds rare u.seconds
  unfold Zone.minuteStart at back
  rw [wall] at back
  have change : z.offsetAt u.seconds ≠ z.offsetAt c.seconds := by omega
  obtain ⟨a, member, after, before⟩ := Zone.exists_transition (by omega) change
  have late := (settled a member).2
  have first := c.firstSecond_le
  have last : never.seconds ≤ lastSecond := by decide
  -- The clock goes on with the same offset until the second before the hour is shown again.
  have same := Zone.offsetAt_near rare member (t := c.seconds)
    (u := w.count - 1 - z.offsetAt c.seconds) (by omega) (Or.inl before) (by omega) (by omega)
  obtain ⟨now, at_now, now_nanos⟩ : ∃ now : Instant,
      now.seconds = w.count - 1 - z.offsetAt c.seconds ∧ now.nanos = c.nanos :=
    ⟨⟨w.count - 1 - z.offsetAt c.seconds, c.nanos, c.nanos_lt, by omega, by omega⟩, rfl, rfl⟩
  have before_hour : (z.wallAt now).count = w.count - 1 := by
    unfold Zone.wallAt
    rw [at_now, ← same]
    simp only
    omega
  have from_le : c ≤ now := by
    rw [Instant.le_iff, Instant.lt_iff]
    omega
  have early := (settled a member).1
  exact fallsBackFrom_of_answer from_le (answer_daily full supported (by omega) shown before_hour)
    (by omega) nanos (by omega)

/-- Where a full hour lies in a gap, its jump only turns back by the seconds of its minute, and so
does the move to the next minute across that gap. -/
theorem fallsBack_of_gap (full : w.count % 3600 = 0) (later : (z.wallAt c).count < w.count)
    (gap : z.isInGap w = true) (resolved : z.resolve? w = some u)
    (back : z.minuteStart u ≤ c.seconds) : FallsBackFrom z c := by
  have last : never.seconds ≤ lastSecond := by decide
  obtain ⟨a, member, begun, swallowed, at_u, -⟩ := Zone.gap_of_resolve rare gap resolved
    (fun a member => by have := (settled a member).2; omega)
  have early := settled a member
  have count : (z.wallAt c).count = c.seconds + z.offsetAt c.seconds := rfl
  have bounds := Zone.offsetAt_bounds rare c.seconds
  have bounds' := Zone.offsetAt_bounds rare a.since
  have before : c.seconds < a.since := by
    apply Int.not_le.1
    intro behind
    by_cases near : c.seconds ≤ a.since + 172800
    · have := Zone.offsetAt_near rare member behind (Or.inl (Int.le_refl _)) near (by omega)
      omega
    · omega
  obtain ⟨now, at_now, now_nanos⟩ : ∃ now : Instant, now.seconds = a.since - 1 ∧ now.nanos = c.nanos :=
    ⟨⟨a.since - 1, c.nanos, c.nanos_lt, by omega, by omega⟩, rfl, rfl⟩
  have from_le : c ≤ now := by
    rw [Instant.le_iff, Instant.lt_iff]
    omega
  have minute := minuteStart_bounds z u
  have second := (z.wallAt now).second_eq
  have shown : (z.wallAt now).count = a.since - 1 + z.offsetAt (a.since - 1) := by
    unfold Zone.wallAt
    rw [at_now]
  obtain ⟨v, start⟩ := @Instant.exists_ofSeconds (now.seconds - (z.wallAt now).second) (by omega)
    (by omega)
  obtain ⟨at_v, v_nanos⟩ := Instant.ofSeconds_eq_some_iff.1 start
  have next : addMinutes? v 1 = some u :=
    addMinutes_eq_some.2 ⟨by omega, (Zone.resolve_nanos resolved).trans v_nanos.symm⟩
  obtain ⟨s, now', next', le, answered, stuck⟩ := fallsBack_of_minute rare settled start next (by omega)
  refine ⟨s, now', next', ?_, answered, stuck⟩
  rw [Instant.le_iff, Instant.lt_iff] at *
  omega

theorem TurnsBack.fallsBack (turns : TurnsBack z c) : FallsBackFrom z c := by
  cases turns with
  | @jump w u full supported later resolved back =>
    rcases Zone.resolve_eq_some resolved with shown | ⟨gap, -⟩
    · exact fallsBack_of_shown rare settled full supported later shown back
    · exact fallsBack_of_gap rare settled full later gap resolved back
  | minute start next back => exact fallsBack_of_minute rare settled start next back

end

end Search

/-- From a second on, the offsets are whole minutes, and a clock that is put back does not pass a full hour:
none comes behind what it then shows and in front of the end of what it has shown. -/
structure Zone.PutBackWithinHours (z : Zone) (first : Int) : Prop where
  minutes : ∀ t, first ≤ t → z.offsetAt t % 60 = 0
  hours : ∀ x ∈ z.transitions, first < x.since →
    (x.since + z.offsetAt (x.since - 1) - 1) / 3600 ≤ (x.since + z.offsetAt x.since) / 3600

theorem Zone.putBackWithinHours_of_changes {z : Zone} {first : Int} (start : z.offsetAt first % 60 = 0)
    (all : ∀ c ∈ changesFrom z.initial z.transitions, first < c.1 →
      c.2.2 % 60 = 0 ∧ (c.1 + c.2.1 - 1) / 3600 ≤ (c.1 + c.2.2) / 3600) : z.PutBackWithinHours first := by
  have changes := forall_of_changes (p := fun since old new => first < since →
    new % 60 = 0 ∧ (since + old - 1) / 3600 ≤ (since + new) / 3600) all
  exact {
    minutes := fun t => forall_offsetAt_from (p := fun o => o % 60 = 0) start
      fun x member later => (changes x member later).1
    hours := fun x member later => (changes x member later).2 }

/-- A minute of the clock begins with a minute of the time line. -/
theorem Zone.PutBackWithinHours.minuteStart_eq {z : Zone} {first : Int} (within : z.PutBackWithinHours first)
    {u : Instant} (le : first ≤ u.seconds) : z.minuteStart u = 60 * (u.seconds / 60) := by
  have second := (z.wallAt u).second_eq
  have count : (z.wallAt u).count = u.seconds + z.offsetAt u.seconds := rfl
  have whole := within.minutes u.seconds le
  unfold Zone.minuteStart
  omega

namespace Search

variable {z : Zone} {c : Instant}

/-- In a zone that is rarely changed, no move turns back two days after the second from which on its clock
does not pass a full hour when it is put back. -/
theorem not_turnsBack_of_withinHours (rare : z.RarelyChanged)
    (ended : ∀ x ∈ z.transitions, x.since + 172800 ≤ lastSecond) {first : Int}
    (within : z.PutBackWithinHours first) (le : first + 172800 ≤ c.seconds) : ¬ TurnsBack z c := by
  have count : (z.wallAt c).count = c.seconds + z.offsetAt c.seconds := rfl
  have bounds := Zone.offsetAt_bounds rare c.seconds
  have start {u : Instant} (le : first ≤ u.seconds) := within.minuteStart_eq le
  intro turns
  cases turns with
  | @jump w u full supported later resolved back =>
    have bounds' := Zone.offsetAt_bounds rare u.seconds
    rcases Zone.resolve_eq_some resolved with shown | ⟨gap, -⟩
    · have count' : w.count = u.seconds + z.offsetAt u.seconds := by
        rw [← (Zone.firstShowing_eq_some shown).2.1]
        rfl
      have whole := within.minutes u.seconds (by omega)
      rw [start (by omega)] at back
      have change : z.offsetAt u.seconds ≠ z.offsetAt c.seconds := by omega
      obtain ⟨x, member, after, before⟩ := Zone.exists_transition (by omega) change
      have old := Zone.offsetAt_before rare member after (by omega)
      have new := Zone.offsetAt_behind rare member before (by omega)
      have := within.hours x member (by omega)
      omega
    · obtain ⟨x, member, recent, begun, at_u, -, swallowed | beyond⟩ :=
        Zone.exists_change_of_gap rare gap resolved
      · have old := Zone.offsetAt_bounds rare (x.since - 1)
        have whole := within.minutes (x.since - 1) (by omega)
        rw [start (by omega)] at back
        have := Zone.reading_behind rare member (q := c.seconds) (by omega)
        omega
      · have := ended x member
        have := Zone.offsetAt_bounds rare x.since
        omega
  | @minute v u begin next back =>
    obtain ⟨at_v, -⟩ := startOfMinute_eq_some.1 begin
    obtain ⟨at_u, -⟩ := addMinutes_eq_some.1 next
    have here : v.seconds = z.minuteStart c := at_v
    rw [start (by omega)] at here
    rw [start (by omega)] at back
    omega

end Search

namespace Schedule

/-- What is answered for a schedule from an instant on advances. -/
structure Advances (s : Schedule) (z : Zone) (now : Instant) : Prop where
  /-- The search comes to an end: it gives up, is broken off or finds a run behind the instant. -/
  ends : s.isSatisfiable = true → ∃ e, Search.EndsWith s.timetable z now e ∧ ∀ u, e = .finds u → now < u
  /-- The next run is behind the instant, if there is one. -/
  later : s.nextRun z now = never ∨ now < s.nextRun z now
  answer : ∀ next, s.answer z now = .ok next → next = never ∨ now < next
  /-- Runs that follow one another ascend. -/
  ascends : ∀ n, (now :: s.nextRuns z now n).Pairwise (· < ·)
  answers : ∀ n runs, s.answers z now n = .ok runs → (now :: runs).Pairwise (· < ·)

/-- From an instant on from which no move turns back, the search for a next run comes to an end, every next
run is behind its start and every list of runs ascends. In a zone that is rarely changed, and settled long
before the instant that stands for no run, nothing less will do. -/
theorem advances (z : Zone) (a : Instant) :
    ((∀ c, a ≤ c → ¬ Search.TurnsBack z c) →
      ∀ (s : Schedule) (now : Instant), a ≤ now → s.Advances z now) ∧
    (z.RarelyChanged → z.Settled →
      (∀ (s : Schedule) (now next : Instant), a ≤ now → s.answer z now = .ok next →
        next = never ∨ now < next) →
      ∀ c, a ≤ c → ¬ Search.TurnsBack z c) := by
  constructor
  · intro straight s now le
    have next : ∀ now, a ≤ now → s.nextRun z now ≠ never → now < s.nextRun z now := by
      intro now le real
      obtain ⟨proper, found⟩ := run_of_nextRun real
      exact Search.lt_of_run straight le proper found
    have later : s.nextRun z now = never ∨ now < s.nextRun z now := by
      by_cases real : s.nextRun z now = never
      · exact Or.inl real
      · exact Or.inr (next now le real)
    have ascends : ∀ n, (now :: s.nextRuns z now n).Pairwise (· < ·) := by
      intro n
      apply pairwise_nextRuns (fun t => a ≤ t) (· < ·) (fun _ _ _ => Instant.lt_trans) _ n le
      intro now le real
      exact ⟨next now le real, Instant.le_of_lt (Instant.lt_of_le_of_lt le (next now le real))⟩
    exact {
      ends := by
        intro satisfiable
        have proper := timetable_proper satisfiable
        have enough : lastSecond < now.seconds + ((lastSecond - now.seconds + 1).toNat : Int) := by omega
        obtain ⟨e, ends⟩ : ∃ e,
            Search.ending? s.timetable z (z.wallAt now).date.year _ ⟨now, true⟩ = some e :=
          Search.exists_ending_of_straight straight proper le enough
        refine ⟨e, ⟨_, ends⟩, ?_⟩
        rintro u rfl
        exact Search.lt_of_iterate straight le proper (Search.ending_finds ends)
      later
      answer := fun next answered => nextRun_of_answer answered ▸ later
      ascends
      answers := fun n runs answered => nextRuns_of_answers answered ▸ ascends n }
  · intro rare settled advance c le turns
    obtain ⟨s, now, next, le', answered, real, stuck⟩ := turns.fallsBack rare settled
    rcases advance s now next (Instant.le_trans le le') answered with h | h
    · exact real h
    · exact stuck h

/-- In New York, no move turns back from 1970 on: from the second pass of an hour in the night of 2024-11-03,
the next run at one o'clock is that of the next night. -/
theorem newYork_advances :
    Zone.newYork.RarelyChanged ∧ Zone.newYork.Settled ∧
      (∀ c, Instant.epoch ≤ c → ¬ Search.TurnsBack Zone.newYork c) ∧
      ∃ now next : Instant, now.seconds = 1730615400 ∧ next.seconds = 1730700000 ∧
        (Zone.newYork.wallAt now).hour = 1 ∧ (daily 1).answer Zone.newYork now = .ok next ∧
        (daily 1).Advances Zone.newYork now := by
  have rare : Zone.newYork.RarelyChanged :=
    Zone.rarelyChanged_of_spaced (by decide +kernel) (by decide +kernel) (by decide +kernel)
  have settled : Zone.newYork.Settled := by unfold Zone.Settled; decide +kernel
  have within : Zone.newYork.PutBackWithinHours (-172800) :=
    Zone.putBackWithinHours_of_changes (by decide +kernel) (by decide +kernel)
  have straight : ∀ c, Instant.epoch ≤ c → ¬ Search.TurnsBack Zone.newYork c := by
    intro c le
    apply Search.not_turnsBack_of_withinHours rare (fun x member => ?_) within
    · have : Instant.epoch.seconds = 0 := rfl
      rw [Instant.le_iff, Instant.lt_iff] at le
      omega
    · have := (settled x member).2
      have : never.seconds ≤ lastSecond := by decide
      omega
  refine ⟨rare, settled, straight, ⟨1730615400, 0, by decide, by decide, by decide⟩,
    ⟨1730700000, 0, by decide, by decide, by decide⟩, rfl, rfl, by decide +kernel, ?_, ?_⟩
  · exact answer_of_ending (n := 3) (by decide +kernel) (by decide) (by decide +kernel)
  · exact (advances Zone.newYork Instant.epoch).1 straight _ _ (by decide)

/-- At midnight. -/
def everyMidnight : Schedule where
  taskId := "rotate"
  fields := { minute := .ofText "0", hour := .ofText "0" }

/-- In the night of 2000-10-29, the clocks of Newfoundland were put back from one minute past midnight: the
next run then comes before its start, and comes again. -/
theorem everyMidnight_falls_back :
    everyMidnight.isSatisfiable = true ∧ ∃ now next : Instant,
      now.seconds = 972788400 ∧ next.seconds = 972786600 ∧
        everyMidnight.nextRun Zone.stJohns now = next ∧ next ≠ never ∧ next < now ∧
        everyMidnight.nextRuns Zone.stJohns now 3 = [next, next, next] := by
  refine ⟨by decide +kernel, ⟨972788400, 0, by decide, by decide, by decide⟩,
    ⟨972786600, 0, by decide, by decide, by decide⟩, rfl, rfl, ?_, by decide, by decide, ?_⟩
  · decide +kernel
  · decide +kernel

end Schedule
end CronCalendar
