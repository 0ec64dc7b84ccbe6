import CronCalendar.Proofs.Schedule.Recurrence
import CronCalendar.Proofs.Search.LeaptDays

/-!
# The search in coordinated universal time is complete

A search that finds nothing has nothing to find (`run_eq_none_iff`): named dates come back within the
years that it covers, and behind a day that it leaps over there is another named one in the same
March. So one named date is enough for a run within eight years (`run_within_eight_years`). Where no
day can be leapt over, as in a schedule without days of the month, the search does what `scan?` does,
which looks at every minute in turn (`run_eq_scan`).
-/

namespace CronCalendar
set_option autoImplicit false

open Zone (utc)

namespace WallTime

/-- The years of wall times are ordered as their days. -/
theorem year_mono {v w : WallTime} (le : v.dayNumber ≤ w.dayNumber) : v.date.year ≤ w.date.year := by
  apply Date.firstDay_le_iff_year.1
  exact Int.le_trans (Date.firstDay_le_iff_year.2 (Int.le_refl _)) le

end WallTime

namespace Search

variable {t : Timetable} {now u : Instant}

/-- Behind every named minute, or at it, there is one of the same year that the search does not leap
over. -/
theorem exists_kept (proper : t.Proper) {w : WallTime} (named : t.names w = true)
    (supported : w.isSupported = true) :
    ∃ w', t.names w' = true ∧ ¬ LeaptOver t w'.date ∧ w'.date.year = w.date.year ∧
      w.count ≤ w'.count ∧ w'.count ≤ lastSecond := by
  by_cases leapt : LeaptOver t w.date
  · obtain ⟨w', named', kept, year, later, -⟩ := leapt.exists_target proper
    have supported' : w.date.isSupported = true := by
      rw [WallTime.isSupported_date]
      exact supported
    obtain ⟨v, at_v⟩ := LeaptOver.exists_instant supported' year
    have last := v.le_lastSecond
    have number : w.date.dayNumber = w.dayNumber := Date.dayNumber_ofDayNumber w.dayNumber
    refine ⟨w', named', kept, year, ?_, by omega⟩
    rw [number] at later
    unfold WallTime.dayNumber secondsPerDay at later
    omega
  · exact ⟨w, named, leapt, rfl, Int.le_refl _, (WallTime.isSupported_iff.1 supported).2⟩

/-- A minute that is named behind the start has one in the years that the search covers. -/
theorem exists_near (proper : t.Proper) {m : Instant} (behind : now.seconds / 60 < m.seconds / 60)
    (named : t.names ⟨m.seconds⟩ = true) :
    ∃ w : WallTime, t.names w = true ∧ w.isSupported = true ∧ now.seconds / 60 < w.count / 60 ∧
      w.date.year ≤ (utc.wallAt now).date.year + yearLimit := by
  have supported : WallTime.isSupported ⟨m.seconds⟩ = true :=
    WallTime.isSupported_iff.2 ⟨m.firstSecond_le, m.le_lastSecond⟩
  have limit : yearLimit = 8 := rfl
  by_cases near : (WallTime.date ⟨m.seconds⟩).year ≤ (utc.wallAt now).date.year + yearLimit
  · exact ⟨⟨m.seconds⟩, named, supported, behind, near⟩
  -- The date comes back in the eight years behind the year of the start.
  obtain ⟨w, named', later, near'⟩ :=
    Timetable.exists_names_behind proper (Timetable.names_iff.1 named).1 (utc.wallAt now).date.year
  have before : w.dayNumber < WallTime.dayNumber ⟨m.seconds⟩ := by
    apply Int.not_le.1
    intro le
    have := WallTime.year_mono le
    omega
  have after : (utc.wallAt now).dayNumber < w.dayNumber := by
    apply Int.not_le.1
    intro le
    have := WallTime.year_mono le
    omega
  have first := now.firstSecond_le
  have last := m.le_lastSecond
  rw [Zone.wallAt_utc] at after
  unfold WallTime.dayNumber secondsPerDay at before after
  simp only at before after
  exact ⟨w, named', WallTime.isSupported_iff.2 (by omega), by omega, by omega⟩

/-- The search finds nothing exactly if no later minute is named. -/
theorem run_eq_none_iff (proper : t.Proper) :
    run? t utc now = none ↔
      ∀ m : Instant, now.seconds / 60 < m.seconds / 60 → t.names ⟨m.seconds⟩ = false := by
  constructor
  · intro nothing m behind
    apply Bool.eq_false_iff.2
    intro named
    obtain ⟨w, named, supported, ahead, within⟩ := exists_near proper behind named
    obtain ⟨w', named', kept, year, later, last⟩ := exists_kept proper named supported
    have later : now.seconds / 60 < w'.count / 60 := by omega
    obtain ⟨u, found, -⟩ := exists_run_utc proper last named' kept later (by omega)
    exact nomatch nothing.symm.trans found
  · intro unnamed
    cases found : run? t utc now with
    | none => rfl
    | some u =>
      obtain ⟨follows, named⟩ := run_utc proper found
      have ahead := follows.ahead
      rw [Candidate.earliest_first] at ahead
      exact nomatch named.symm.trans (unnamed u (by omega))

/-- Where some date is named, a search that does not start in the last eight supported years finds a
run in the years that it covers. -/
theorem exists_run_of_namesDate (proper : t.Proper) {n : Int} (named : t.namesDate n = true)
    (early : (utc.wallAt now).date.year + yearLimit ≤ Date.lastYear) :
    ∃ u, run? t utc now = some u ∧
      (utc.wallAt u).date.year ≤ (utc.wallAt now).date.year + yearLimit := by
  have limit : yearLimit = 8 := rfl
  have start : (utc.wallAt now).date.isSupported = true := by
    rw [WallTime.isSupported_date, Zone.wallAt_utc, WallTime.isSupported_iff]
    exact ⟨now.firstSecond_le, now.le_lastSecond⟩
  obtain ⟨w, named, later, near⟩ :=
    Timetable.exists_names_behind proper named (utc.wallAt now).date.year
  have supported : w.isSupported = true := by
    rw [← WallTime.isSupported_date]
    simp only [Date.isSupported, Bool.and_eq_true, decide_eq_true_eq] at start ⊢
    omega
  obtain ⟨w', named', kept, year, behind, last⟩ := exists_kept proper named supported
  have ahead : (utc.wallAt now).dayNumber < w.dayNumber := by
    apply Int.not_le.1
    intro le
    have := WallTime.year_mono le
    omega
  have later : now.seconds / 60 < w'.count / 60 := by
    rw [Zone.wallAt_utc] at ahead
    unfold WallTime.dayNumber secondsPerDay at ahead
    simp only at ahead
    omega
  obtain ⟨u, found, reached⟩ := exists_run_utc proper last named' kept later (by omega)
  refine ⟨u, found, ?_⟩
  have before : (utc.wallAt u).dayNumber ≤ w'.dayNumber := by
    rw [Zone.wallAt_utc]
    unfold WallTime.dayNumber secondsPerDay
    simp only
    omega
  have := WallTime.year_mono before
  omega

/-- Where every day of the month is named, no day is leapt over. -/
theorem not_leaptOver_of_days (all : ∀ d, 1 ≤ d → d ≤ 31 → d ∈ t.days) (e : Date) :
    ¬ LeaptOver t e := by
  intro leapt
  have length := Date.daysInMonth_february e.year
  exact leapt.unreached (Date.daysInMonth e.year 2) (Nat.le_refl _) (by omega)
    (all _ (by omega) (by omega))

end Search

namespace Schedule

variable {s : Schedule} {now : Instant}

/-- A schedule without days of the month names a number of the month as soon as it exists. -/
theorem mem_days_of_any (any : (s.field .day).isAny = true) {d : Nat} (first : 1 ≤ d) (last : d ≤ 31) :
    d ∈ s.timetable.days := by
  show d ∈ Field.Kind.day.evaluate (s.field .day)
  rw [Field.Expr.eq_any any, Field.Kind.mem_evaluate_any]
  exact ⟨first, last⟩

/-- The first of `n` minutes, the earliest of which starts at `second`, that the schedule names in
coordinated universal time. -/
def scanFrom (s : Schedule) : Nat → Int → Option Instant
  | 0, _ => none
  | n + 1, second =>
    match Instant.ofSeconds? second with
    | none => none
    | some t => if s.matchesAt utc t then some t else s.scanFrom n (second + 60)

/-- The first named minute behind the minute of an instant, found by looking at every minute up to the
last one that there is. -/
def scan? (s : Schedule) (now : Instant) : Option Instant :=
  s.scanFrom (lastSecond / 60 - now.seconds / 60).toNat (60 * (now.seconds / 60 + 1))

/-- A scan that passes no named minute before one finds that one. -/
theorem scanFrom_eq_some {u : Instant} (nanos : u.nanos = 0) (named : s.matchesAt utc u = true)
    {n k : Nat} {second : Int} (enough : k < n) (place : u.seconds = second + 60 * (k : Int))
    (first : firstSecond ≤ second)
    (passed : ∀ m : Instant, second ≤ m.seconds → m.seconds < u.seconds → s.matchesAt utc m = false) :
    s.scanFrom n second = some u := by
  induction n generalizing k second with
  | zero => omega
  | succ n ih =>
    have last := u.le_lastSecond
    obtain ⟨t, start⟩ := @Instant.exists_ofSeconds second first (by omega)
    obtain ⟨seconds, nanos'⟩ := Instant.ofSeconds_eq_some_iff.1 start
    simp only [scanFrom, start]
    cases k with
    | zero =>
      obtain rfl : t = u := Instant.eq_of_parts (by omega) (nanos'.trans nanos.symm)
      rw [if_pos named]
    | succ k =>
      have unnamed := passed t (by omega) (by omega)
      rw [unnamed, if_neg Bool.false_ne_true]
      exact ih (k := k) (by omega) (by omega) (by omega) fun m le lt => passed m (by omega) lt

/-- A scan of minutes none of which is named finds nothing. -/
theorem scanFrom_eq_none {second : Int}
    (unnamed : ∀ m : Instant, second ≤ m.seconds → s.matchesAt utc m = false) (n : Nat) :
    s.scanFrom n second = none := by
  induction n generalizing second with
  | zero => rfl
  | succ n ih =>
    simp only [scanFrom]
    split
    · rfl
    · rename_i t start
      have seconds := (Instant.ofSeconds_eq_some_iff.1 start).1
      rw [unnamed t (by omega), if_neg Bool.false_ne_true]
      exact ih fun m le => unnamed m (by omega)

/-- Where no day is leapt over, a search passes no named minute before the run that it finds. -/
theorem unnamed_before_run (proper : s.timetable.Proper)
    (kept : ∀ e, ¬ Search.LeaptOver s.timetable e) {u : Instant}
    (found : Search.run? s.timetable utc now = some u) {m : Instant}
    (behind : now.seconds / 60 < m.seconds / 60) (before : m.seconds < u.seconds) :
    s.matchesAt utc m = false := by
  apply Bool.eq_false_iff.2
  intro named
  apply kept (utc.wallAt m).date
  apply (Search.run_utc proper found).1.passes _ named
  · rw [Search.Candidate.earliest_first, Zone.wallAt_utc]
    simp only
    omega
  · rw [Zone.wallAt_utc]
    exact before

/-- A search that leaps over no day finds what the scan finds. -/
theorem run_eq_scan (proper : s.timetable.Proper) (kept : ∀ e, ¬ Search.LeaptOver s.timetable e)
    (now : Instant) : Search.run? s.timetable utc now = s.scan? now := by
  have first := now.firstSecond_le
  unfold firstSecond at first
  unfold scan?
  cases found : Search.run? s.timetable utc now with
  | none =>
    symm
    apply scanFrom_eq_none
    intro m le
    rw [matchesAt, Zone.wallAt_utc]
    exact (Search.run_eq_none_iff proper).1 found m (by omega)
  | some u =>
    obtain ⟨follows, named⟩ := Search.run_utc proper found
    have ahead := follows.ahead
    have whole := follows.whole
    have last := u.le_lastSecond
    unfold lastSecond at *
    rw [Search.Candidate.earliest_first] at ahead
    have named : s.matchesAt utc u = true := by
      rw [matchesAt, Zone.wallAt_utc]
      exact named
    symm
    apply scanFrom_eq_some follows.nanos named
      (k := (u.seconds / 60 - now.seconds / 60 - 1).toNat) (by omega) (by omega)
    · unfold firstSecond
      omega
    · intro m le before
      exact unnamed_before_run proper kept found (by omega) before

/-- Without days of the month, the next run is the first named minute: none is passed before it, a
search that gives up has none ahead, and looking at every minute in turn comes to the same. -/
theorem run_firstNamed_of_anyDay (any : (s.field .day).isAny = true)
    (satisfiable : s.isSatisfiable = true) (now : Instant) :
    (∀ m : Instant, now.seconds / 60 < m.seconds / 60 → m < s.nextRun utc now →
        s.matchesAt utc m = false) ∧
      (Search.run? s.timetable utc now = none →
        ∀ m : Instant, now.seconds / 60 < m.seconds / 60 → s.matchesAt utc m = false) ∧
      Search.run? s.timetable utc now = s.scan? now := by
  have proper := timetable_proper satisfiable
  have kept := Search.not_leaptOver_of_days fun _ => mem_days_of_any any
  have nothing : Search.run? s.timetable utc now = none →
      ∀ m : Instant, now.seconds / 60 < m.seconds / 60 → s.matchesAt utc m = false := by
    intro gave_up m behind
    rw [matchesAt, Zone.wallAt_utc]
    exact (Search.run_eq_none_iff proper).1 gave_up m behind
  refine ⟨?_, nothing, run_eq_scan proper kept now⟩
  intro m behind before
  cases found : Search.run? s.timetable utc now with
  | none => exact nothing found m behind
  | some u =>
    rw [nextRun_of_run satisfiable found, Instant.lt_iff, (Search.run_utc proper found).1.nanos] at before
    exact unnamed_before_run proper kept found behind (by omega)

/-- Eight years are enough: if the months and days of a schedule name any date at all, then the search
finds a run that is at most eight calendar years off, unless it starts so late that these years are
not all supported. -/
theorem run_within_eight_years (satisfiable : s.isSatisfiable = true) {n : Int}
    (named : s.timetable.namesDate n = true) (early : (utc.wallAt now).date.year ≤ 262134) :
    ∃ u, Search.run? s.timetable utc now = some u ∧
      (utc.wallAt u).date.year - (utc.wallAt now).date.year ≤ 8 := by
  have limit : Search.yearLimit = 8 := rfl
  have last : Date.lastYear = 262142 := rfl
  have inside : (utc.wallAt now).date.year + Search.yearLimit ≤ Date.lastYear := by omega
  obtain ⟨u, found, within⟩ :=
    Search.exists_run_of_namesDate (timetable_proper satisfiable) named inside
  exact ⟨u, found, by omega⟩

/-- At midnight on leap days. -/
def leapDays : Schedule where
  taskId := "leap"
  fields := { minute := .ofText "0", hour := .ofText "0", day := .ofText "29", month := .ofText "2" }

/-- The leap day of 2096 at midnight. The next leap day is eight years off. -/
def leapDay2096 : Instant := ⟨3981312000, 0, zero_lt_nanosPerSecond, by decide, by decide⟩

theorem leapDays_within_eight_years :
    leapDays.isSatisfiable = true ∧
      leapDays.timetable.namesDate (Date.dayNumber ⟨2096, 2, 29⟩) = true ∧
      (utc.wallAt leapDay2096).date = ⟨2096, 2, 29⟩ ∧
      ∃ u, Search.run? leapDays.timetable utc leapDay2096 = some u ∧
        (utc.wallAt u).date.year - (utc.wallAt leapDay2096).date.year ≤ 8 := by
  have satisfiable : leapDays.isSatisfiable = true := by decide +kernel
  have named : leapDays.timetable.namesDate (Date.dayNumber ⟨2096, 2, 29⟩) = true := by
    decide +kernel
  have start : (utc.wallAt leapDay2096).date = ⟨2096, 2, 29⟩ := by decide +kernel
  exact ⟨satisfiable, named, start, run_within_eight_years satisfiable named (by rw [start]; decide)⟩

/-- At nine on Mondays. -/
def mondaysAtNine : Schedule where
  taskId := "report"
  fields := { minute := .ofText "0", hour := .ofText "9", dayOfWeek := .ofText "1" }

theorem mondaysAtNine_firstNamed :
    (mondaysAtNine.field .day).isAny = true ∧ mondaysAtNine.isSatisfiable = true ∧
      Search.run? mondaysAtNine.timetable utc Instant.epoch = mondaysAtNine.scan? Instant.epoch := by
  have satisfiable : mondaysAtNine.isSatisfiable = true := by decide +kernel
  exact ⟨rfl, satisfiable, (run_firstNamed_of_anyDay rfl satisfiable Instant.epoch).2.2⟩

end Schedule

end CronCalendar
