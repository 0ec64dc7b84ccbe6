import CronCalendar.Proofs.Search.Completeness
import CronCalendar.Proofs.Search.EveryDay
import CronCalendar.Proofs.Zone.ClearDays

/-!
# Searches that arrive

A search heads for a minute on a clear day as long as its candidate is not past it (`Heads`). Every step
from there finds a run or heads for the minute from a later reading of the clock (`step_nears`): no aim
is past the minute, and a gap on the way either ends before the day begins or takes one of its inner
hours; then the search runs behind that gap, unless the hour it lands in is named. So a search that heads
for a minute ends with a run (`exists_arrival`). In a zone that is clear at first, a search from the epoch
heads for a clear day of the first years (`nextRun_epoch_ne_never_iff_of_clear`).
-/

namespace CronCalendar.Search
set_option autoImplicit false

/-- A minute that a search can be sure to come to, or to find a run before. -/
structure Target (t : Timetable) (z : Zone) (firstYear : Int) (v : WallTime) : Prop where
  named : t.names v = true
  kept : ¬ LeaptOver t v.date
  lastHour : ∀ h ∈ t.hours, h ≤ v.hour
  clear : z.ClearOn v.dayNumber
  within : v.date.year ≤ firstYear + yearLimit
  inside : v.count + 259200 ≤ lastSecond

/-- How a search gets on: from hour to hour, or, where it started or has jumped over a gap, from an odd
reading by way of a full minute to the next hour. -/
inductive Pace (z : Zone) (v : WallTime) (c : Candidate) : Prop
  | hour (touched : c.untouched = false) (nanos : c.instant.nanos = 0)
      (full : (z.wallAt c.instant).count % 3600 = 0)
  | minute (touched : c.untouched = false) (full : (z.wallAt c.instant).count % 60 = 0)
      (steady : ∀ x ∈ z.transitions, x.since ≤ c.instant.seconds ∨ c.instant.seconds + 3600 < x.since)
      (early : (z.wallAt c.instant).count + 3600 ≤ v.count)
  | odd
      (steady : ∀ x ∈ z.transitions, x.since ≤ c.instant.seconds ∨ c.instant.seconds + 7200 < x.since)
      (early : (z.wallAt c.instant).count + 7200 ≤ v.count)

/-- The search heads for a minute. -/
structure Heads (z : Zone) (v : WallTime) (c : Candidate) : Prop where
  floor : firstSecond + 172800 ≤ (z.wallAt c.instant).count
  before : (z.wallAt c.instant).count ≤ v.count
  pace : Pace z v c

variable {t : Timetable} {z : Zone} {firstYear : Int} {v w : WallTime} {c c' : Candidate} {a : Aim}
  {target u : Instant}

/-- A step on the way: it finds a run, or heads for the minute from a later reading. -/
inductive Nears (z : Zone) (v : WallTime) (c : Candidate) : Outcome → Prop
  | runs {u : Instant} (near : u.seconds ≤ v.count + 172800) : Nears z v c (.runs u)
  | goOn {c' : Candidate} (heads : Heads z v c')
      (later : (z.wallAt c.instant).count / 60 < (z.wallAt c'.instant).count / 60) : Nears z v c (.goOn c')

theorem Nears.of_later {b : Candidate} {o : Outcome} (nears : Nears z v b o)
    (later : (z.wallAt c.instant).count / 60 < (z.wallAt b.instant).count / 60) : Nears z v c o := by
  cases nears with
  | runs near => exact .runs near
  | goOn heads later' => exact .goOn heads (Int.lt_trans later later')

/-! ## The minutes -/

/-- Inside the supported years, the look at the minutes does not give up. -/
theorem minuteStep_inside (proper : t.Proper) (first : firstSecond + 60 ≤ c.instant.seconds)
    (last : c.instant.seconds + 3600 ≤ lastSecond) : minuteStep t z c ≠ .giveUp := by
  have second := (z.wallAt c.instant).second_lt
  obtain ⟨start, found⟩ := @Instant.exists_ofSeconds (c.instant.seconds - (z.wallAt c.instant).second)
    (by omega) (by omega)
  have seconds := (startOfMinute_eq_some.1 found).1
  have next_lt := proper.minute_lt _ (Values.nextFrom_mem proper.minutes (z.wallAt start).minute)
  have moves : ∀ n : Nat, n ≤ 60 → ∃ e, addMinutes? start n = some e := fun n le =>
    ⟨⟨start.seconds + 60 * n, start.nanos, start.nanos_lt, by omega, by omega⟩,
      addMinutes_eq_some.2 ⟨rfl, rfl⟩⟩
  rw [minuteStep_eq found]
  split
  · obtain ⟨e, moved⟩ := moves 1 (by decide)
    simp [moved, goOnAt]
  split
  · obtain ⟨e, moved⟩ := moves (60 - (z.wallAt start).minute) (Nat.sub_le _ _)
    simp [moved, goOnAt]
  · obtain ⟨e, moved⟩ := moves
      (t.minutes.nextFrom (z.wallAt start).minute - (z.wallAt start).minute) (by omega)
    simp [moved]

/-- As long as it is not changed, the clock goes on with the time. -/
theorem count_of_steady {b e : Instant} (from_le : b.seconds ≤ e.seconds)
    (steady : ∀ x ∈ z.transitions, x.since ≤ b.seconds ∨ e.seconds < x.since) :
    (z.wallAt e).count = (z.wallAt b).count + (e.seconds - b.seconds) := by
  have same := Zone.offsetAt_eq from_le steady
  simp only [Zone.wallAt]
  omega

section
variable (proper : t.Proper) (rare : z.RarelyChanged) (inside : v.count + 259200 ≤ lastSecond)
include proper rare inside

/-- The look at the minutes finds a run or goes on towards the next hour. -/
theorem minuteStep_nears (heads : Heads z v c) : Nears z v c (minuteStep t z c) := by
  have floor := heads.floor
  have before := heads.before
  have bounds := Zone.offsetAt_bounds rare c.instant.seconds
  have count : (z.wallAt c.instant).count = c.instant.seconds + z.offsetAt c.instant.seconds := rfl
  have second := (z.wallAt c.instant).second_eq
  have second_lt := (z.wallAt c.instant).second_lt
  have minute := (z.wallAt c.instant).minute_eq
  cases moved : minuteStep t z c with
  | giveUp => exact absurd moved (minuteStep_inside proper (by omega) (by omega))
  | runs u =>
    obtain ⟨start, found, -, -, next⟩ := minuteStep_runs moved
    have next_lt := proper.minute_lt _ (Values.nextFrom_mem proper.minutes (z.wallAt start).minute)
    have seconds := (startOfMinute_eq_some.1 found).1
    have := (addMinutes_eq_some.1 next).1
    exact .runs (by omega)
  | goOn c' =>
    obtain ⟨touched', start, found, next⟩ := minuteStep_goOn moved
    obtain ⟨seconds, nanos⟩ := startOfMinute_eq_some.1 found
    have minute_lt := (z.wallAt start).minute_lt
    cases heads.pace with
    | hour touched nanos' full =>
      obtain ⟨instant, untouched⟩ := c
      subst touched
      exact absurd moved (minuteStep_fullHour_ne_goOn nanos' full)
    | minute touched full steady early =>
      have place : start.seconds = c.instant.seconds := by omega
      have reading : z.wallAt start = z.wallAt c.instant := by rw [Zone.wallAt, place, Zone.wallAt]
      rcases next with ⟨untouched, -⟩ | ⟨-, next⟩
      · cases touched.symm.trans untouched
      · obtain ⟨moved_seconds, moved_nanos⟩ := addMinutes_eq_some.1 next
        rw [reading] at minute_lt moved_seconds
        have count' := @count_of_steady z c.instant c'.instant (by omega) fun x member => by
          rcases steady x member with begun | ahead <;> omega
        exact .goOn ⟨by omega, by omega, .hour touched' (moved_nanos.trans nanos) (by omega)⟩ (by omega)
    | odd steady early =>
      obtain ⟨k, one, le, place⟩ : ∃ k : Nat, 1 ≤ k ∧ k ≤ 60 ∧
          c'.instant.seconds = start.seconds + 60 * (k : Int) := by
        rcases next with ⟨-, -, next⟩ | ⟨-, next⟩
        · exact ⟨1, by omega, by omega, (addMinutes_eq_some.1 next).1⟩
        · exact ⟨_, by omega, by omega, (addMinutes_eq_some.1 next).1⟩
      have count' := @count_of_steady z c.instant c'.instant (by omega) fun x member => by
        rcases steady x member with begun | ahead <;> omega
      have steady' : ∀ x ∈ z.transitions,
          x.since ≤ c'.instant.seconds ∨ c'.instant.seconds + 3600 < x.since := by
        intro x member
        rcases steady x member with begun | ahead <;> omega
      exact .goOn ⟨by omega, by omega, .minute touched' (by omega) steady' (by omega)⟩ (by omega)

/-! ## The aims -/

/-- Where an aim is moved to a candidate that heads for the minute, so does the step. -/
theorem pursue_of_heads (supported : a.wall.isSupported = true) (resolved : z.resolve? a.wall = some target)
    (heads : Heads z v ⟨target, false⟩)
    (later : (z.wallAt c.instant).count / 60 < (z.wallAt target).count / 60) :
    Nears z v c (pursue t z a) := by
  have look : Nears z v c (minuteStep t z ⟨target, false⟩) :=
    (minuteStep_nears proper rare inside heads).of_later later
  cases a with
  | day n =>
    have start := startOfSupportedDay_eq_some.2 ⟨supported, resolved⟩
    simp only [pursue, start, goOnAt]
    exact .goOn heads later
  | hour n h =>
    simp only [Aim.wall] at supported resolved
    simp only [pursue, supported, resolved, if_true]
    split
    · exact look
    · exact .goOn heads later

end

section
variable (proper : t.Proper) (rare : z.RarelyChanged) (settled : z.Settled)
  (goal : Target t z firstYear v) (floor : firstSecond + 172800 ≤ (z.wallAt c.instant).count)
  (before : (z.wallAt c.instant).count ≤ v.count)
include proper rare settled goal floor before

omit rare settled floor in
/-- No aim is past the minute. -/
theorem aim_le (aim : aim? t (z.wallAt c.instant) = some a) : a.wall.count ≤ v.count := by
  apply Int.not_lt.1
  intro past
  exact goal.kept (aim_passes proper aim (by omega) past goal.named)

/-- An aim in a gap that takes an inner hour of the day ends in a run, or in the hour behind the gap if that is
named. -/
theorem pursue_inner {x : Transition} (member : x ∈ z.transitions)
    (inner : Zone.TakesInnerHour x.since (z.offsetAt (x.since - 1)) (z.offsetAt x.since) v.dayNumber)
    (from_le : x.since + z.offsetAt (x.since - 1) ≤ a.wall.count)
    (lt : a.wall.count < x.since + z.offsetAt x.since)
    (aim : aim? t (z.wallAt c.instant) = some a) : Nears z v c (pursue t z a) := by
  obtain ⟨wide, hour, begun, ended⟩ := inner
  obtain ⟨ahead, full⟩ := aim_ahead proper aim
  have reached := aim_le proper goal before aim
  have inside := goal.inside
  have bounds := Zone.offsetAt_bounds rare (x.since - 1)
  obtain ⟨gap, target, resolved, nanos, seconds⟩ := Zone.resolve_swallowed rare settled member from_le lt
  have count_t := Zone.count_behind rare member (v := target) (by omega) (by omega)
  have supported : a.wall.isSupported = true := WallTime.isSupported_iff.2 ⟨by omega, by omega⟩
  have full_t : (z.wallAt target).count % 3600 = 0 := by omega
  by_cases named : (z.wallAt target).hour ∈ t.hours
  · -- The hour is not behind the last one that is named.
    have le := goal.lastHour _ named
    have shown := v.count_eq
    have shown_t := (z.wallAt target).count_eq
    have hour_lt := (z.wallAt target).hour_lt
    have minute_t := (z.wallAt target).minute_eq
    have second_t := (z.wallAt target).second_eq
    exact pursue_of_heads proper rare inside supported resolved
      ⟨by simp only; omega, by simp only; omega, .hour rfl nanos full_t⟩ (by omega)
  · cases a with
    | day n =>
      rw [Aim.wall, WallTime.count_ofDay] at *
      omega
    | hour n h =>
      have day : (WallTime.atHour n h).dayNumber = (WallTime.atHour n h).count / 86400 := rfl
      have day_t : (z.wallAt target).dayNumber = (z.wallAt target).count / 86400 := rfl
      simp only [Aim.wall] at *
      have stays := staysInJumpedHour_iff.2 ⟨gap, named, show _ = _ by omega⟩
      obtain ⟨u, found, place⟩ := exists_minuteStep_runs (t := t) proper nanos full_t (by omega)
      have next_lt := proper.minute_lt _ (Values.nextFrom_mem proper.minutes 0)
      simp only [pursue, supported, resolved, stays, if_true, found]
      exact .runs (by omega)

/-- A step to an aim nears the minute. -/
theorem pursue_nears (aim : aim? t (z.wallAt c.instant) = some a) : Nears z v c (pursue t z a) := by
  obtain ⟨ahead, full⟩ := aim_ahead proper aim
  have reached := aim_le proper goal before aim
  have inside := goal.inside
  have supported : a.wall.isSupported = true := WallTime.isSupported_iff.2 ⟨by omega, by omega⟩
  cases shown : z.firstShowing? a.wall with
  | some target =>
    obtain ⟨nanos, reading, -⟩ := Zone.firstShowing_eq_some shown
    have resolved : z.resolve? a.wall = some target := by rw [Zone.resolve?, shown]
    apply pursue_of_heads proper rare inside supported resolved
    · constructor
      · simp only [reading]
        omega
      · simp only [reading]
        exact reached
      · refine .hour rfl nanos ?_
        simp only [reading]
        exact full
    · rw [reading]
      omega
  | none =>
    have gap : z.isInGap a.wall = true := Zone.isInGap_iff.2 shown
    obtain ⟨x, member, from_le, lt⟩ := Zone.exists_skips rare gap (by omega) (by omega)
    by_cases inner : Zone.TakesInnerHour x.since (z.offsetAt (x.since - 1)) (z.offsetAt x.since) v.dayNumber
    · exact pursue_inner proper rare settled goal floor before member inner from_le lt aim
    · -- The day begins behind the gap and the two hours that follow.
      have number : v.dayNumber = v.count / 86400 := rfl
      have narrow := goal.clear.narrow x member
      have passed : x.since + z.offsetAt x.since + (z.offsetAt x.since - z.offsetAt (x.since - 1)) + 7200 ≤
          86400 * v.dayNumber := Int.not_lt.1 fun lands => goal.clear.unspoilt x member
        { forward := by omega, begun := by omega, lands, awkward := inner }
      obtain ⟨-, target, resolved, nanos, seconds⟩ :=
        Zone.resolve_swallowed rare settled member from_le lt
      have count_t := Zone.count_behind rare member (v := target) (by omega) (by omega)
      apply pursue_of_heads proper rare inside supported resolved
      · refine ⟨by simp only; omega, by simp only; omega, .odd ?_ (by simp only; omega)⟩
        intro y member'
        apply Decidable.byContradiction
        intro between
        simp only at between
        have := Zone.eq_of_near rare member member' (by omega) (by omega)
        omega
      · omega

end

/-! ## The way -/

section
variable (proper : t.Proper) (rare : z.RarelyChanged) (settled : z.Settled) (goal : Target t z firstYear v)
include proper rare settled goal

/-- Every step on the way nears the minute. -/
theorem step_nears (heads : Heads z v c) : Nears z v c (step t z firstYear c) := by
  have floor := heads.floor
  have before := heads.before
  have within : (z.wallAt c.instant).date.year ≤ firstYear + yearLimit := by
    have number : (z.wallAt c.instant).dayNumber = (z.wallAt c.instant).count / 86400 := rfl
    have number' : v.dayNumber = v.count / 86400 := rfl
    exact Int.le_trans (WallTime.year_mono (by omega)) goal.within
  cases aim : aim? t (z.wallAt c.instant) with
  | none =>
    rw [step_of_fits proper within aim]
    exact minuteStep_nears proper rare goal.inside heads
  | some a =>
    rw [step_of_aim proper within aim]
    exact pursue_nears proper rare settled goal floor before aim

/-- A search that heads for the minute ends with a run, before it has passed the minute by far. -/
theorem exists_arrival {n : Nat} (heads : Heads z v c)
    (enough : v.count / 60 - (z.wallAt c.instant).count / 60 < n) :
    ∃ u, iterate t z firstYear n c = .runs u ∧ u.seconds ≤ v.count + 172800 := by
  induction n generalizing c with
  | zero =>
    have before := heads.before
    omega
  | succ n ih =>
    have nears := step_nears proper rare settled goal heads
    cases moved : step t z firstYear c with
    | giveUp =>
      rw [moved] at nears
      cases nears
    | runs u =>
      rw [moved] at nears
      cases nears with
      | runs near => exact ⟨u, iterate_of_runs moved (Nat.succ_pos n), near⟩
    | goOn c' =>
      rw [moved] at nears
      cases nears with
      | goOn heads' later =>
        obtain ⟨u, found, near⟩ := ih heads' (by omega)
        exact ⟨u, iterate_of_goOn moved found, near⟩

end

/-! ## Searches from the epoch -/

/-- A search that finds a run has come to a named date. -/
theorem namesDate_of_run (proper : t.Proper) {now : Instant} (found : run? t z now = some u) :
    ∃ n, t.namesDate n = true := by
  obtain ⟨last, -, found⟩ :=
    exists_last_step (fun _ => True) (fun _ _ _ _ => trivial) trivial (run_eq_some.1 found)
  obtain ⟨b, looks, -⟩ := step_runs proper found
  cases looks with
  | stands none => exact ⟨_, ((aim_eq_none_iff proper).1 none).1⟩
  | jumped aim =>
    rcases eq_of_aim proper aim with ⟨-, ⟨⟩⟩ | ⟨-, ⟨⟩, -⟩ | ⟨named, -⟩
    exact ⟨_, named⟩

/-- Where the first years are clear, a search from the epoch for a date that is named at all ends with a run
in these years. -/
theorem exists_run_epoch (proper : t.Proper) (clear : z.ClearAtFirst) {n : Int}
    (named : t.namesDate n = true) :
    ∃ u, run? t z Instant.epoch = some u ∧ u.seconds ≤ 86400 * 1463 := by
  obtain ⟨day, date, kept, on, from_le, le⟩ := clear.exists_clear proper named
  obtain ⟨hour, member, greatest⟩ := Values.exists_greatest proper.hours
  have minute := Values.nextFrom_mem proper.minutes 0
  have hour_lt := proper.hour_lt _ member
  have minute_lt := proper.minute_lt _ minute
  obtain ⟨v, count⟩ : ∃ v : WallTime, v.count =
      86400 * day + 3600 * (hour : Int) + 60 * (t.minutes.nextFrom 0 : Int) + (0 : Nat) := ⟨⟨_⟩, rfl⟩
  obtain ⟨v_day, v_hour, v_minute, -⟩ := WallTime.parts_eq count hour_lt minute_lt (by decide)
  have v_date : v.date = Date.ofDayNumber day := by rw [WallTime.date, v_day]
  have day_ge := (@Date.firstDay_le_iff_year 1971 day).2 from_le
  have day_lt := mt (@Date.firstDay_le_iff_year 1974 day).1 (by omega)
  have start : Date.firstDay (12 * 1971) = 365 := by decide
  have stop : Date.firstDay (12 * 1974) = 1461 := by decide
  have epoch : (z.wallAt Instant.epoch).count = 0 + z.offsetAt 0 := rfl
  have bounds := Zone.offsetAt_bounds clear.rare 0
  have first : firstSecond ≤ -600000 := by decide
  have last : 300000000 ≤ lastSecond := by decide
  have firstYear : 1969 ≤ (z.wallAt Instant.epoch).date.year := by
    have number : (z.wallAt Instant.epoch).dayNumber = (z.wallAt Instant.epoch).count / 86400 := rfl
    have begun : Date.firstDay (12 * 1969) = -365 := by decide
    exact Date.firstDay_le_iff_year.1 (by omega)
  have goal : Target t z (z.wallAt Instant.epoch).date.year v :=
    { named := Timetable.names_iff.2 ⟨v_day ▸ date, v_hour ▸ member, v_minute ▸ minute⟩
      kept := v_date ▸ kept
      lastHour := v_hour ▸ greatest
      clear := v_day ▸ on
      within := by
        unfold yearLimit
        rw [v_date]
        omega
      inside := by omega }
  have heads : Heads z v ⟨Instant.epoch, true⟩ := by
    refine ⟨by simp only; omega, by simp only; omega, .odd (fun x member => ?_) (by simp only; omega)⟩
    have seconds : Instant.epoch.seconds = 0 := rfl
    rcases clear.quiet x member with begun | ahead <;> simp only [seconds] <;> omega
  obtain ⟨u, found, near⟩ := exists_arrival proper clear.rare clear.settled goal heads
    (n := stepLimit) (by unfold stepLimit; simp only; omega)
  exact ⟨u, run_eq_some.2 found, by omega⟩

end CronCalendar.Search

namespace CronCalendar.Schedule
set_option autoImplicit false

/-- In a zone that is clear at first, a schedule whose fields all match something runs behind the epoch
exactly if it names any date. -/
theorem nextRun_epoch_ne_never_iff_of_clear {s : Schedule} {z : Zone} (clear : z.ClearAtFirst)
    (satisfiable : s.isSatisfiable = true) :
    s.nextRun z Instant.epoch ≠ never ↔ ∃ n, s.timetable.namesDate n = true := by
  have proper := timetable_proper satisfiable
  constructor
  · intro real
    exact Search.namesDate_of_run proper (run_of_nextRun real).2
  · rintro ⟨n, date⟩ stops
    obtain ⟨u, found, near⟩ := Search.exists_run_epoch proper clear date
    have sentinel : never.seconds = 7952342400 := rfl
    rw [nextRun_of_run satisfiable found] at stops
    rw [stops] at near
    omega

end CronCalendar.Schedule
