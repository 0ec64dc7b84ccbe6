import CronCalendar.Proofs.Search.Endings
import CronCalendar.Proofs.Search.NamedMinutes
import CronCalendar.Proofs.Zone.FullHours

/-!
# Schedules that run in every hour

A schedule that names only minutes leaves the search nothing to aim at: each step looks at the minutes.
Where clocks are changed at full hours, a look loses no named minute (`losesNone_minuteStep`), so a search
that finds a run finds the first named minute (`firstFrom_of_iterate`), in gaps and overlaps of any
width. It finds one while the next named minute is in the years that it covers (`exists_iterate`), as
it is in a zone whose clock is left alone for an hour now and then (`nextRun_first`). A clock that is moved
at each half hour can hide the full hours for longer than that (`flips_hide_hours`).
-/

namespace CronCalendar.Search
set_option autoImplicit false

variable {t : Timetable} {z : Zone} {firstYear : Int} {c : Candidate} {u v : Instant}

/-- The instant some minutes later exists, or comes behind all that there are. -/
theorem addMinutes_cases (v : Instant) (n : Nat) :
    (addMinutes? v n = none ∧ ∀ m : Instant, m.seconds < v.seconds + 60 * (n : Int)) ∨
      ∃ u, addMinutes? v n = some u ∧ u.seconds = v.seconds + 60 * (n : Int) ∧ u.nanos = v.nanos := by
  have first := v.firstSecond_le
  by_cases last : v.seconds + 60 * (n : Int) ≤ lastSecond
  · right
    exact ⟨⟨v.seconds + 60 * (n : Int), v.nanos, v.nanos_lt, by omega, last⟩,
      addMinutes_eq_some.2 ⟨rfl, rfl⟩, rfl, rfl⟩
  · left
    constructor
    · apply Option.eq_none_iff_forall_ne_some.2
      intro u moved
      have := u.le_lastSecond
      have := (addMinutes_eq_some.1 moved).1
      omega
    · intro m
      have := m.le_lastSecond
      omega

/-- Only the minutes of a timetable are restricted. -/
def MinutesOnly (t : Timetable) : Prop := ∀ w : WallTime, t.names w = true ↔ w.minute ∈ t.minutes

section
variable (proper : t.Proper) (only : MinutesOnly t) (onHour : z.ChangedOnTheHour)

include proper only in
theorem aim_eq_none (w : WallTime) : aim? t w = none := by
  obtain ⟨m, member⟩ := Values.isEmpty_eq_false_iff.1 proper.minutes
  have lt := proper.minute_lt m member
  have minute := (WallTime.mk (3600 * (w.count / 3600) + 60 * (m : Int))).minute_eq
  have same := WallTime.sameHour (v := ⟨3600 * (w.count / 3600) + 60 * (m : Int)⟩) (w := w)
    (by simp only; omega)
  have named := (only ⟨3600 * (w.count / 3600) + 60 * (m : Int)⟩).2 (by
    rw [show WallTime.minute ⟨3600 * (w.count / 3600) + 60 * (m : Int)⟩ = m by
      simp only at minute
      omega]
    exact member)
  obtain ⟨date, hour, -⟩ := Timetable.names_iff.1 named
  rw [aim_eq_none_iff proper, ← same.1, ← same.2]
  exact ⟨date, hour⟩

include onHour in
theorem exists_startOfMinute_onHour (v : Instant) :
    ∃ start, startOfMinute? z v = some start ∧ start.seconds = z.minuteStart v ∧ start.nanos = 0 ∧
      (z.wallAt start).minute = (z.wallAt v).minute := by
  have place := onHour.minuteStart_eq v
  have floor := v.firstSecond_le
  have last := v.le_lastSecond
  have lt := (z.wallAt v).minute_lt
  obtain ⟨start, found⟩ := @Instant.exists_ofSeconds (z.minuteStart v)
    (by unfold firstSecond at *; omega) (by omega)
  obtain ⟨seconds, nanos⟩ := Instant.ofSeconds_eq_some_iff.1 found
  have count := onHour.count_in_hour (v := v) (m := start) (by omega) (by omega)
  have count' : (z.wallAt v).count = v.seconds + z.offsetAt v.seconds := rfl
  have whole := onHour.minutes v.seconds
  have minute := (z.wallAt v).minute_eq
  have minute' := (z.wallAt start).minute_eq
  exact ⟨start, found, seconds, nanos, by omega⟩

include onHour in
/-- The minutes of the rest of an hour count up. -/
theorem minute_in_hour {v m : Instant} (from_le : z.minuteStart v ≤ m.seconds)
    (before : m.seconds < z.minuteStart v + 60 * (60 - (z.wallAt v).minute : Int)) :
    ((z.wallAt m).minute : Int) = (z.wallAt v).minute + (m.seconds - z.minuteStart v) / 60 := by
  have place := onHour.minuteStart_eq v
  have count := onHour.count_in_hour from_le before
  have count' : (z.wallAt v).count = v.seconds + z.offsetAt v.seconds := rfl
  have whole := onHour.minutes v.seconds
  have minute := (z.wallAt v).minute_eq
  have minute' := (z.wallAt m).minute_eq
  omega

include only onHour in
/-- As many minutes of the hour as no member of the timetable falls into are passed without a named
one. -/
theorem unnamed_in_hour (v : Instant) (k : Nat) (le : (z.wallAt v).minute + k ≤ 60)
    (none : ∀ i ∈ t.minutes, (z.wallAt v).minute ≤ i → (z.wallAt v).minute + k ≤ i) {m : Instant}
    (from_le : z.minuteStart v ≤ m.seconds) (before : m.seconds < z.minuteStart v + 60 * (k : Int)) :
    t.names (z.wallAt m) = false := by
  have minute := minute_in_hour onHour from_le (by omega)
  apply Bool.eq_false_iff.2
  intro named
  have := none _ ((only _).1 named) (by omega)
  omega

/-- An outcome that loses no named minute: the search gives up with none ahead, goes on in front of the
next one, or finds it. -/
def LosesNone (t : Timetable) (z : Zone) (c : Candidate) (outcome : Outcome) : Prop :=
  (outcome = .giveUp ∧ ∀ m : Instant, c.openFrom z ≤ m.seconds → t.names (z.wallAt m) = false) ∨
    (∃ u, outcome = .goOn ⟨u, false⟩ ∧ Passes t z c u u) ∨
    ∃ u, outcome = .runs u ∧ FirstFrom t z (c.openFrom z) u

include onHour in
/-- A move over minutes that are not named loses none: where it leads to no instant, none is left. -/
theorem losesNone_goOnAt {start : Instant} {k : Nat} (seconds : start.seconds = z.minuteStart c.instant)
    (some : 0 < k) (ahead : c.openFrom z ≤ z.minuteStart c.instant + 60 * (k : Int))
    (unnamed : ∀ m : Instant, c.openFrom z ≤ m.seconds →
      m.seconds < z.minuteStart c.instant + 60 * (k : Int) → t.names (z.wallAt m) = false) :
    LosesNone t z c (goOnAt (addMinutes? start k)) := by
  have bounds := minuteStart_bounds z c.instant
  have place := onHour.minuteStart_eq c.instant
  rcases addMinutes_cases start k with ⟨nowhere, beyond⟩ | ⟨u, moved, seconds_u, -⟩
  · left
    rw [nowhere]
    refine ⟨rfl, fun m from_open => unnamed m from_open ?_⟩
    have := beyond m
    omega
  · right
    left
    have minute := onHour.minuteStart_eq u
    refine ⟨u, by rw [moved]; rfl, by omega, by omega, Int.le_refl _, by omega, ?_⟩
    intro m from_open before
    exact unnamed m from_open (by omega)

include proper only onHour in
/-- The look at the minutes loses none. -/
theorem losesNone_minuteStep (c : Candidate) : LosesNone t z c (minuteStep t z c) := by
  have open_eq : c.openFrom z = z.minuteStart c.instant + if c.untouched then 60 else 0 := rfl
  have open_le := c.openFrom_bounds z
  have minute_lt := (z.wallAt c.instant).minute_lt
  have member := Values.nextFrom_mem proper.minutes (z.wallAt c.instant).minute
  have next_lt := proper.minute_lt _ member
  have passed := unnamed_in_hour only onHour c.instant
  obtain ⟨start, start_eq, seconds, nanos, start_minute⟩ := exists_startOfMinute_onHour onHour c.instant
  rw [minuteStep_eq start_eq, start_minute]
  split
  · rename_i first
    rw [if_pos first.2] at open_eq
    exact losesNone_goOnAt onHour seconds (by omega) (by omega) fun m _ _ => by omega
  rename_i untouched
  split
  · rename_i wraps
    have none : ∀ i ∈ t.minutes, (z.wallAt c.instant).minute ≤ i →
        (z.wallAt c.instant).minute + (60 - (z.wallAt c.instant).minute) ≤ i := fun i member le =>
      absurd member (Values.not_mem_of_nextFrom_lt proper.minutes wraps (Or.inl le))
    exact losesNone_goOnAt onHour seconds (by omega) (by omega) fun m from_open before =>
      passed _ (by omega) none (by omega) before
  rename_i ahead
  have none : ∀ i ∈ t.minutes, (z.wallAt c.instant).minute ≤ i →
      (z.wallAt c.instant).minute + (t.minutes.nextFrom (z.wallAt c.instant).minute -
        (z.wallAt c.instant).minute) ≤ i := fun i member le => by
    have := Nat.le_of_not_lt fun lt => Values.not_mem_of_lt_nextFrom proper.minutes le lt member
    omega
  have unnamed (m : Instant) := passed _ (m := m) (by omega) none
  rcases addMinutes_cases start
    (t.minutes.nextFrom (z.wallAt c.instant).minute - (z.wallAt c.instant).minute) with
    ⟨nowhere, beyond⟩ | ⟨u, moved, seconds_u, nanos_u⟩
  · left
    rw [nowhere]
    refine ⟨rfl, fun m from_open => unnamed m (by omega) ?_⟩
    have := beyond m
    omega
  · have later : c.openFrom z ≤ u.seconds := by
      rw [open_eq]
      split
      · rename_i first
        have : t.minutes.nextFrom (z.wallAt c.instant).minute ≠ (z.wallAt c.instant).minute :=
          fun same => untouched ⟨same, first⟩
        omega
      · omega
    have minute := minute_in_hour onHour (v := c.instant) (m := u) (by omega) (by omega)
    right
    right
    refine ⟨u, by rw [moved], nanos_u.trans nanos, ?_, later, ?_⟩
    · rw [only, show (z.wallAt u).minute = t.minutes.nextFrom (z.wallAt c.instant).minute by omega]
      exact member
    · intro m from_open before
      exact unnamed m (by omega) (by omega)

include proper only onHour in
/-- A step within the years loses none. -/
theorem losesNone_step (within : (z.wallAt c.instant).date.year ≤ firstYear + yearLimit) :
    LosesNone t z c (step t z firstYear c) := by
  rw [step_of_fits proper within (aim_eq_none proper only _)]
  exact losesNone_minuteStep proper only onHour c

include proper only onHour in
/-- A run that a search finds is the first named minute from the candidate on. -/
theorem firstFrom_of_iterate {n : Nat} (found : iterate t z firstYear n c = .runs u) :
    FirstFrom t z (c.openFrom z) u := by
  induction n generalizing c with
  | zero => cases found
  | succ n ih =>
    have within := within_of_iterate found
    rw [iterate] at found
    rcases losesNone_step proper only onHour within with ⟨h, -⟩ | ⟨v, h, passes⟩ | ⟨v, h, first⟩
    · rw [h] at found
      cases found
    · rw [h] at found
      have rest := ih found
      rw [Candidate.openFrom_moved, passes.minute] at rest
      exact rest.of_passed passes.ahead passes.unnamed
    · rw [h] at found
      cases found
      exact first

include proper only onHour in
/-- While a named minute is ahead in the years that the search covers, it finds a run. -/
theorem exists_iterate (named : t.names (z.wallAt v) = true)
    (years : ∀ m : Instant, m.seconds ≤ v.seconds → c.instant.seconds ≤ m.seconds →
      (z.wallAt m).date.year ≤ firstYear + yearLimit) {n : Nat} (ahead : c.openFrom z ≤ v.seconds)
    (reached : c.instant.seconds ≤ v.seconds) (enough : v.seconds / 60 - c.instant.seconds / 60 < n) :
    ∃ u, iterate t z firstYear n c = .runs u := by
  induction n generalizing c with
  | zero => omega
  | succ n ih =>
    rw [iterate]
    rcases losesNone_step proper only onHour (years _ reached (Int.le_refl _)) with
      ⟨-, unnamed⟩ | ⟨u, h, passes⟩ | ⟨u, h, -⟩
    · rw [unnamed v ahead] at named
      cases named
    · have moves := passes.moves
      have minute := passes.minute
      have whole := onHour.minuteStart_eq u
      have le : u.seconds ≤ v.seconds := by
        apply Int.not_lt.1
        intro passed
        rw [passes.unnamed v ahead passed] at named
        cases named
      rw [h]
      apply ih
      · intro m before from_le
        simp only at from_le
        exact years m before (by omega)
      · rw [Candidate.openFrom_moved]
        omega
      · exact le
      · simp only
        omega
    · exact ⟨u, by rw [h]⟩

include proper only onHour in
/-- Each step leaves fewer minutes of the years that the search covers. -/
theorem iterate_ne_goOn {n : Nat} {c' : Candidate}
    (enough : (60 * (hourLimit firstYear + 24) - c.instant.seconds / 60).toNat < n) :
    iterate t z firstYear n c ≠ .goOn c' := by
  induction n generalizing c with
  | zero => omega
  | succ n ih =>
    rw [iterate]
    cases moved : step t z firstYear c with
    | runs u => simp
    | giveUp => simp
    | goOn c₁ =>
      have within := within_of_step (by rw [moved]; simp)
      have left := hour_lt_limit within
      have bounds := onHour.bounds c.instant.seconds
      have count : (z.wallAt c.instant).count = c.instant.seconds + z.offsetAt c.instant.seconds := rfl
      rcases losesNone_step proper only onHour within with ⟨h, -⟩ | ⟨u, h, passes⟩ | ⟨u, h, -⟩
      · rw [moved] at h
        cases h
      · rw [moved] at h
        cases h
        have moves := passes.moves
        have minute := passes.minute
        have whole := onHour.minuteStart_eq u
        apply ih
        simp only
        omega
      · rw [moved] at h
        cases h

end

/-- A run is found within an hour of the years that the search covers. -/
theorem lt_of_iterate_runs (proper : t.Proper) (only : MinutesOnly t) (onHour : z.ChangedOnTheHour)
    {n : Nat} (found : iterate t z firstYear n c = .runs u) :
    u.seconds < 3600 * (hourLimit firstYear + 25) := by
  obtain ⟨last, -, runs⟩ :=
    exists_last_step (fun _ => True) (fun _ _ _ _ => trivial) trivial found
  have within := within_of_step (by rw [runs]; simp)
  have left := hour_lt_limit within
  have bounds := onHour.bounds last.instant.seconds
  have count : (z.wallAt last.instant).count = last.instant.seconds + z.offsetAt last.instant.seconds := rfl
  rw [step_of_fits proper within (aim_eq_none proper only _)] at runs
  obtain ⟨start, start_eq, -, -, moved⟩ := minuteStep_runs runs
  have seconds := (startOfMinute_eq_some.1 start_eq).1
  have moved := (addMinutes_eq_some.1 moved).1
  have next := proper.minute_lt _ (Values.nextFrom_mem proper.minutes (z.wallAt start).minute)
  omega

end CronCalendar.Search

namespace CronCalendar.Schedule
set_option autoImplicit false

open Search

/-- A whole minute behind the minute of an instant, which the clock shows with one of the minutes of a
schedule. -/
structure MinuteBehind (s : Schedule) (z : Zone) (now t : Instant) : Prop where
  nanos : t.nanos = 0
  whole : t.seconds % 60 = 0
  behind : now.seconds / 60 < t.seconds / 60
  shown : (z.wallAt t).minute ∈ s.values .minute

/-- The first of the minutes behind. -/
structure FirstMinuteBehind (s : Schedule) (z : Zone) (now u : Instant) : Prop where
  behind : s.MinuteBehind z now u
  le : ∀ t, s.MinuteBehind z now t → u ≤ t

variable {s : Schedule} {z : Zone} {now t u : Instant}

section
variable (starred : ∀ kind, kind ≠ .minute → (s.field kind).isAny = true)
include starred

theorem minutesOnly_of_starred : MinutesOnly s.timetable := by
  have any {kind : Field.Kind} (other : kind ≠ .minute) : s.field kind = .any :=
    Field.Expr.eq_any (starred kind other)
  intro w
  have date := namesDate_of_any (any (by decide)) (any (by decide)) (any (by decide)) w.dayNumber
  have hour : w.hour ∈ s.timetable.hours := by
    show w.hour ∈ Field.Kind.hour.evaluate (s.field .hour)
    rw [any (by decide), Field.Kind.mem_evaluate_any]
    exact ⟨Nat.zero_le _, Nat.le_of_lt_succ w.hour_lt⟩
  rw [Timetable.names_iff, and_iff_right date, and_iff_right hour]

theorem satisfiable_of_starred (valid : s.isFieldValid .minute = true) : s.isSatisfiable = true := by
  rw [isSatisfiable_iff]
  intro kind
  by_cases minute : kind = .minute
  · rw [minute, ← Bool.not_eq_true']
    exact valid
  · rw [values, Field.Expr.eq_any (starred kind minute)]
    exact kind.evaluate_any_nonempty

end

/-- The first named minute from the next minute on is the first one behind the minute of an instant. -/
theorem firstMinuteBehind_of_firstFrom (only : MinutesOnly s.timetable) (onHour : z.ChangedOnTheHour)
    (first : FirstFrom s.timetable z (60 * (now.seconds / 60) + 60) u) :
    s.FirstMinuteBehind z now u := by
  have floor := u.firstSecond_le
  have last := u.le_lastSecond
  have ahead := first.ahead
  have whole : u.seconds % 60 = 0 := by
    apply Decidable.byContradiction
    intro part
    obtain ⟨m, seconds, -⟩ := @Instant.exists_at (60 * (u.seconds / 60))
      (by unfold firstSecond at *; omega) (by omega)
    have start := onHour.minuteStart_eq u
    have minute := minute_in_hour onHour (v := u) (m := m) (by omega)
      (by have := (z.wallAt u).minute_lt; omega)
    have named : s.timetable.names (z.wallAt m) = true := by
      rw [only, show (z.wallAt m).minute = (z.wallAt u).minute by omega, ← only]
      exact first.named
    rw [first.first m (by omega) (by omega)] at named
    cases named
  refine ⟨⟨first.nanos, whole, by omega, (only _).1 first.named⟩, fun t behind => ?_⟩
  have le := first.le_of_named (by have := behind.behind; have := behind.whole; omega)
    ((only _).2 behind.shown)
  rw [Instant.le_iff, Instant.lt_iff, first.nanos]
  omega

/-- The search finds a run while there is a minute for it in the years that it covers. -/
theorem exists_run_of_minuteBehind (proper : s.timetable.Proper) (only : MinutesOnly s.timetable)
    (onHour : z.ChangedOnTheHour) (behind : s.MinuteBehind z now t)
    (years : ∀ m : Instant, now.seconds ≤ m.seconds → m.seconds ≤ t.seconds →
      (z.wallAt m).date.year ≤ (z.wallAt now).date.year + yearLimit) :
    ∃ u, Search.run? s.timetable z now = some u := by
  have whole := behind.whole
  have later := behind.behind
  have start := onHour.minuteStart_eq now
  have left := hours_left (onHour.bounds now.seconds)
  have right := hour_lt_limit (years t (by omega) (Int.le_refl _))
  have bounds := onHour.bounds t.seconds
  have count : (z.wallAt t).count = t.seconds + z.offsetAt t.seconds := rfl
  obtain ⟨u, found⟩ := exists_iterate (v := t) (c := ⟨now, true⟩) (n := stepLimit) proper only onHour
    ((only _).2 behind.shown) (fun m before from_le => years m from_le before)
    (show z.minuteStart now + 60 ≤ t.seconds by omega) (show now.seconds ≤ t.seconds by omega)
    (show t.seconds / 60 - now.seconds / 60 < stepLimit by unfold stepLimit; omega)
  exact ⟨u, run_eq_some.2 found⟩

/-- In a zone whose clock is left alone for an hour now and then, there is such a minute if there is any:
the hour without a change shows every minute. -/
theorem exists_minuteBehind_in_pause (proper : s.timetable.Proper) (onHour : z.ChangedOnTheHour)
    (pauses : z.Pauses) (behind : s.MinuteBehind z now t) :
    ∃ v, s.MinuteBehind z now v ∧ ∀ m : Instant, now.seconds ≤ m.seconds → m.seconds ≤ v.seconds →
      (z.wallAt m).date.year ≤ (z.wallAt now).date.year + yearLimit := by
  have whole := behind.whole
  have later := behind.behind
  have floor := now.firstSecond_le
  have last := t.le_lastSecond
  obtain ⟨p, from_le, near, steady⟩ := pauses (60 * (now.seconds / 60) + 60)
  obtain ⟨v, behind', soon⟩ : ∃ v, s.MinuteBehind z now v ∧ v.seconds < p + 3600 := by
    by_cases soon : t.seconds < p + 3600
    · exact ⟨t, behind, soon⟩
    have lt := proper.minute_lt _ behind.shown
    obtain ⟨v, seconds, nanos⟩ := @Instant.exists_at
      (p + (60 * ((z.wallAt t).minute : Int) - (p + z.offsetAt p)) % 3600) (by omega) (by omega)
    have count : (z.wallAt v).count = v.seconds + z.offsetAt v.seconds := rfl
    rw [steady v.seconds (by omega) (by omega)] at count
    have minute := (z.wallAt v).minute_eq
    have minutes := onHour.minutes p
    refine ⟨v, ⟨nanos, by omega, by omega, ?_⟩, by omega⟩
    rw [show (z.wallAt v).minute = (z.wallAt t).minute by omega]
    exact behind.shown
  refine ⟨v, behind', fun m from_le before => ?_⟩
  have bounds := onHour.bounds m.seconds
  have bounds' := onHour.bounds now.seconds
  apply WallTime.year_le_add 8
  unfold WallTime.dayNumber Zone.wallAt secondsPerDay
  simp only
  omega

/-- A run that is found is the first minute behind the start. -/
theorem firstMinuteBehind_of_run (proper : s.timetable.Proper) (only : MinutesOnly s.timetable)
    (onHour : z.ChangedOnTheHour) (found : Search.run? s.timetable z now = some u) :
    s.FirstMinuteBehind z now u := by
  apply firstMinuteBehind_of_firstFrom only onHour
  have first := firstFrom_of_iterate proper only onHour (run_eq_some.1 found)
  rw [← onHour.minuteStart_eq]
  exact first

/-- Where clocks are changed at full hours, a schedule that restricts only the minute is answered. -/
theorem answer_of_starred (onHour : z.ChangedOnTheHour)
    (starred : ∀ kind, kind ≠ .minute → (s.field kind).isAny = true)
    (valid : s.isFieldValid .minute = true) (now : Instant) : s.answer z now = .ok (s.nextRun z now) := by
  have satisfiable := satisfiable_of_starred starred valid
  have proper := timetable_proper satisfiable
  have only := minutesOnly_of_starred starred
  have left := hours_left (onHour.bounds now.seconds)
  have enough : (60 * (hourLimit (z.wallAt now).date.year + 24) - now.seconds / 60).toNat < stepLimit := by
    unfold stepLimit
    omega
  obtain ⟨e, ends⟩ : ∃ e, ending? s.timetable z (z.wallAt now).date.year stepLimit ⟨now, true⟩ = some e :=
    exists_ending fun _ => iterate_ne_goOn proper only onHour enough
  refine answer_of_told satisfiable ends ?_
  rintro rfl
  exact ending_ne_breaksOff (fun _ => True) (fun c _ => lacksDate_of_fits (aim_eq_none proper only _))
    (fun _ _ _ _ => trivial) trivial ends

/-- Where clocks are changed at full hours, a schedule that restricts only the minute is answered. It runs at
the first whole minute behind its start that the clock shows with a minute of the schedule, in both passes of
an hour that is repeated, and never if there is none. Before such a minute, the search gives up only where
the clock shows none in all the years that the search covers, so in no zone whose clock is left alone
for an hour now and then. A clock that is changed in every hour can hide a minute for longer
(`flips_hide_hours`). -/
theorem nextRun_first (onHour : z.ChangedOnTheHour)
    (starred : ∀ kind, kind ≠ .minute → (s.field kind).isAny = true)
    (valid : s.isFieldValid .minute = true) (now : Instant) :
    s.answer z now = .ok (s.nextRun z now) ∧
      (s.nextRun z now = never ∨ s.FirstMinuteBehind z now (s.nextRun z now)) ∧
      ((¬ ∃ t, s.MinuteBehind z now t) → s.nextRun z now = never) ∧
      (∀ t, s.MinuteBehind z now t →
        (∀ m : Instant, now.seconds ≤ m.seconds → m.seconds ≤ t.seconds →
          (z.wallAt m).date.year ≤ (z.wallAt now).date.year + yearLimit) →
        s.FirstMinuteBehind z now (s.nextRun z now)) ∧
      (z.Pauses → (∃ t, s.MinuteBehind z now t) → s.FirstMinuteBehind z now (s.nextRun z now)) := by
  have satisfiable := satisfiable_of_starred starred valid
  have proper := timetable_proper satisfiable
  have only := minutesOnly_of_starred starred
  have first {u : Instant} (found : Search.run? s.timetable z now = some u) :=
    firstMinuteBehind_of_run proper only onHour found
  have inYears {t : Instant} (behind : s.MinuteBehind z now t)
      (years : ∀ m : Instant, now.seconds ≤ m.seconds → m.seconds ≤ t.seconds →
        (z.wallAt m).date.year ≤ (z.wallAt now).date.year + yearLimit) :
      s.FirstMinuteBehind z now (s.nextRun z now) := by
    obtain ⟨u, found⟩ := exists_run_of_minuteBehind proper only onHour behind years
    rw [nextRun_of_run satisfiable found]
    exact first found
  have outcome : s.nextRun z now = never ∨ s.FirstMinuteBehind z now (s.nextRun z now) := by
    cases found : Search.run? s.timetable z now with
    | none =>
      left
      rw [nextRun, if_pos satisfiable, found]
      rfl
    | some u =>
      right
      rw [nextRun_of_run satisfiable found]
      exact first found
  refine ⟨answer_of_starred onHour starred valid now, outcome,
    fun none => outcome.resolve_right fun h => none ⟨_, h.behind⟩, fun t => inYears, ?_⟩
  rintro pauses ⟨t, behind⟩
  obtain ⟨v, behind', years⟩ := exists_minuteBehind_in_pause proper onHour pauses behind
  exact inYears behind' years

/-- At a quarter to every hour. -/
def quarterTo : Schedule where
  taskId := "report"
  fields := { minute := .ofText "45" }

/-- A zone whose clock is put back by half an hour when it shows ten for the first time. -/
def halfHourBack : Zone :=
  .ofTable "Half hour back" [⟨0, "A"⟩, ⟨-1800, "B"⟩] [(36000, 1)] (by decide)

/-- A quarter to ten is shown twice, and the second time comes next behind the first. -/
theorem quarterTo_first :
    halfHourBack.ChangedOnTheHour ∧ halfHourBack.Pauses ∧
      (∀ kind, kind ≠ .minute → (quarterTo.field kind).isAny = true) ∧
      quarterTo.isFieldValid .minute = true ∧
      ∃ now next : Instant, now.seconds = 35100 ∧ next.seconds = 36900 ∧
        halfHourBack.wallAt next = halfHourBack.wallAt now ∧
        quarterTo.nextRun halfHourBack now = next ∧ quarterTo.FirstMinuteBehind halfHourBack now next := by
  have onHour : halfHourBack.ChangedOnTheHour :=
    Zone.changedOnTheHour_of_changes (by decide) (by decide) (by decide)
  have pauses : halfHourBack.Pauses := Zone.pauses_of_rarelyChanged (by decide)
  have starred : ∀ kind, kind ≠ .minute → (quarterTo.field kind).isAny = true := by
    intro kind other
    cases kind with
    | minute => contradiction
    | _ => rfl
  have valid : quarterTo.isFieldValid .minute = true := by decide +kernel
  refine ⟨onHour, pauses, starred, valid, ⟨35100, 0, by decide, by decide, by decide⟩,
    ⟨36900, 0, by decide, by decide, by decide⟩, rfl, rfl, by decide, ?_⟩
  have next : quarterTo.nextRun halfHourBack ⟨35100, 0, by decide, by decide, by decide⟩ =
      ⟨36900, 0, by decide, by decide, by decide⟩ := by decide +kernel
  have behind : quarterTo.MinuteBehind halfHourBack ⟨35100, 0, by decide, by decide, by decide⟩
      ⟨36900, 0, by decide, by decide, by decide⟩ := ⟨rfl, rfl, by decide, by decide +kernel⟩
  have first := (nextRun_first onHour starred valid _).2.2.2.2 pauses ⟨_, behind⟩
  rw [next] at first
  exact ⟨next, first⟩

/-! ## A clock that hides minutes -/

/-- Half an hour after the universal time, or none. -/
def flipType (k : Nat) : LocalType := if k % 2 = 0 then ⟨1800, "A"⟩ else ⟨0, "B"⟩

/-- In so many half hours from the `k`-th on, a change at the start of each: to half an hour after the
universal time where a full hour starts, and back at the half hours. -/
def flips (k : Nat) : Nat → List Transition
  | 0 => []
  | n + 1 => ⟨1800 * (k : Int), flipType k⟩ :: flips (k + 1) n

theorem ascending_flips (k n : Nat) : Ascending (flips k n) := by
  induction n generalizing k with
  | zero => trivial
  | succ n ih =>
    cases n with
    | zero => trivial
    | succ n => exact ⟨show 1800 * (k : Int) < 1800 * ((k + 1 : Nat) : Int) by omega, ih (k + 1)⟩

/-- A zone whose clock is put forward by half an hour at each of so many full hours and back at each half
hour, when it shows a full hour as well. -/
def flipping (n : Nat) : Zone := ⟨"Flipping", ⟨0, "B"⟩, flips 0 n, ascending_flips 0 n⟩

variable {k n i : Nat} {current : LocalType} {q : Int} {x : Transition}

theorem mem_flips (member : x ∈ flips k n) :
    ∃ i, k ≤ i ∧ i < k + n ∧ x = ⟨1800 * (i : Int), flipType i⟩ := by
  induction n generalizing k with
  | zero => cases member
  | succ n ih =>
    rcases List.mem_cons.1 member with rfl | later
    · exact ⟨k, Nat.le_refl k, by omega, rfl⟩
    · obtain ⟨i, from_le, lt, eq⟩ := ih later
      exact ⟨i, by omega, by omega, eq⟩

/-- A change holds up to the next one. -/
theorem typeFrom_flips (from_le : k ≤ i) (lt : i < k + n) (begun : 1800 * (i : Int) ≤ q)
    (before : q < 1800 * (i + 1 : Int) ∨ i + 1 = k + n) :
    Zone.typeFrom current (flips k n) q = flipType i := by
  induction n generalizing k current with
  | zero => omega
  | succ n ih =>
    rw [flips, Zone.typeFrom, if_pos (by simp only; omega)]
    by_cases here : i = k
    · subst here
      apply Zone.typeFrom_of_lt
      intro x member
      obtain ⟨j, next, lt, rfl⟩ := mem_flips member
      simp only
      omega
    · exact ih (by omega) (by omega) (by omega)

theorem offsetAt_flipping (lt : i < n) (begun : 1800 * (i : Int) ≤ q)
    (before : q < 1800 * (i + 1 : Int) ∨ i + 1 = n) :
    (flipping n).offsetAt q = if i % 2 = 0 then 1800 else 0 := by
  rw [Zone.offsetAt, Zone.typeAt, flipping,
    typeFrom_flips (Nat.zero_le i) (by omega) begun (by omega), flipType]
  split <;> rfl

theorem flipping_changedOnTheHour (n : Nat) : (flipping n).ChangedOnTheHour where
  bounds := Zone.forall_offsetAt (p := fun o => -86400 < o ∧ o < 86400)
    (show (-86400 : Int) < 0 ∧ (0 : Int) < 86400 by decide) fun a member => by
    obtain ⟨i, -, -, rfl⟩ := mem_flips member
    unfold flipType
    split <;> constructor <;> simp
  minutes := Zone.forall_offsetAt (p := fun o => o % 60 = 0) rfl fun a member => by
    obtain ⟨i, -, -, rfl⟩ := mem_flips member
    unfold flipType
    split <;> rfl
  hours := by
    rintro x member -
    obtain ⟨i, -, lt, rfl⟩ := mem_flips member
    cases i with
    | zero =>
      have first : (flipping n).offsetAt (1800 * ((0 : Nat) : Int) - 1) = 0 :=
        congrArg LocalType.offset (Zone.typeFrom_of_lt fun a member => by
          obtain ⟨j, -, -, rfl⟩ := mem_flips member
          simp only
          omega)
      rw [first]
      rfl
    | succ i =>
      have old := offsetAt_flipping (n := n) (i := i) (q := 1800 * ((i + 1 : Nat) : Int) - 1) (by omega)
        (by omega) (by omega)
      simp only [old]
      split <;> omega

/-- While the clock is moved to and fro, it shows none of the first thirty minutes of an hour. -/
theorem minute_flipping {t : Instant} (from_le : 0 ≤ t.seconds) (lt : t.seconds < 1800 * (n : Int)) :
    30 ≤ ((flipping n).wallAt t).minute := by
  have offset := offsetAt_flipping (n := n) (i := (t.seconds / 1800).toNat) (q := t.seconds) (by omega)
    (by omega) (by omega)
  have count : ((flipping n).wallAt t).count = t.seconds + (flipping n).offsetAt t.seconds := rfl
  have minute := ((flipping n).wallAt t).minute_eq
  split at offset <;> omega

/-- Every hour. -/
def everyHour : Schedule where
  taskId := "chime"
  fields := { minute := .ofText "0" }

theorem everyHour_starred (kind : Field.Kind) (other : kind ≠ .minute) :
    (everyHour.field kind).isAny = true := by
  cases kind with
  | minute => contradiction
  | _ => rfl

theorem everyHour_valid : everyHour.isFieldValid .minute = true := by decide +kernel

theorem mem_everyHour_minutes {m : Nat} : m ∈ everyHour.values .minute ↔ m = 0 := by
  have only : everyHour.values .minute = Values.singleton 0 := by decide +kernel
  rw [only, Values.mem_singleton]

/-- Behind the last of nine years of changes, the clock shows a full hour. -/
theorem exists_minuteBehind_flips : ∃ t, everyHour.MinuteBehind (flipping 160000) Instant.epoch t := by
  obtain ⟨t, seconds, nanos⟩ := @Instant.exists_at 288000000 (by decide) (by decide)
  have offset := offsetAt_flipping (n := 160000) (i := 159999) (q := 288000000) (by decide) (by decide)
    (Or.inr rfl)
  have count : ((flipping 160000).wallAt t).count = t.seconds + (flipping 160000).offsetAt t.seconds := rfl
  rw [seconds, offset] at count
  have minute := ((flipping 160000).wallAt t).minute_eq
  have epoch : Instant.epoch.seconds = 0 := rfl
  exact ⟨t, nanos, by omega, by omega, mem_everyHour_minutes.2 (by omega)⟩

/-- The years that the search covers are over before that. -/
theorem nextRun_flipping : everyHour.nextRun (flipping 160000) Instant.epoch = never := by
  have onHour := flipping_changedOnTheHour 160000
  have proper := timetable_proper (satisfiable_of_starred everyHour_starred everyHour_valid)
  have only := minutesOnly_of_starred everyHour_starred
  have limit : hourLimit ((flipping 160000).wallAt Instant.epoch).date.year = 78888 := by
    have offset := offsetAt_flipping (n := 160000) (i := 0) (q := 0) (by decide) (by decide) (by decide)
    have wall : (flipping 160000).wallAt Instant.epoch = ⟨0 + 1800⟩ :=
      congrArg (fun o => WallTime.mk (0 + o)) offset
    rw [wall]
    decide +kernel
  apply Decidable.byContradiction
  intro real
  have found := (run_of_nextRun real).2
  have behind := (firstMinuteBehind_of_run proper only onHour found).behind
  have soon := lt_of_iterate_runs proper only onHour (run_eq_some.1 found)
  have epoch : Instant.epoch.seconds = 0 := rfl
  have later := behind.behind
  have hidden := minute_flipping (n := 160000) (t := everyHour.nextRun (flipping 160000) Instant.epoch)
    (by omega) (by omega)
  have := mem_everyHour_minutes.1 behind.shown
  omega

/-- A clock that is moved to and fro for nine years hides the full hours for so long that the search for one
gives up, although the clock shows them behind these years. In coordinated universal time, the full hour with
which 2222 begins is answered as if there were none, and is not listed. -/
theorem flips_hide_hours :
    (∀ kind, kind ≠ .minute → (everyHour.field kind).isAny = true) ∧
      everyHour.isFieldValid .minute = true ∧
      ((flipping 160000).ChangedOnTheHour ∧
        (∃ t, everyHour.MinuteBehind (flipping 160000) Instant.epoch t) ∧
        everyHour.nextRun (flipping 160000) Instant.epoch = never) ∧
      Zone.utc.ChangedOnTheHour ∧ ∃ now t : Instant, now.seconds = 7952342340 ∧
        everyHour.FirstMinuteBehind Zone.utc now t ∧ everyHour.nextRun Zone.utc now = never ∧
        everyHour.nextRuns Zone.utc now 1 = [] := by
  refine ⟨everyHour_starred, everyHour_valid,
    ⟨flipping_changedOnTheHour 160000, exists_minuteBehind_flips, nextRun_flipping⟩,
    Zone.changedOnTheHour_of_changes (by decide) (by decide) (by decide),
    ⟨7952342340, 0, by decide, by decide, by decide⟩, never, rfl, ⟨⟨rfl, by decide, by decide, ?_⟩, ?_⟩,
    by decide +kernel, by decide +kernel⟩
  · exact mem_everyHour_minutes.2 (by decide +kernel)
  · intro t behind
    have later := behind.behind
    have whole := behind.whole
    have begins : never.seconds = 7952342400 := rfl
    have nanos : never.nanos = 0 := rfl
    rw [Instant.le_iff, Instant.lt_iff]
    simp only at later
    omega

end CronCalendar.Schedule
