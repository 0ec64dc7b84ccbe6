import CronCalendar.Proofs.Search.Utc

/-!
# The search in coordinated universal time gets there

While a named minute is ahead that the search does not leap over, no step gives up
(`step_ne_giveUp`), so within the steps that a search may take it ends with a run at that minute or
before it (`exists_run_utc`). The steps suffice because each moves the candidate by a minute at least,
and the years that a search may cover have fewer minutes than it has steps.
-/

namespace CronCalendar.Search
set_option autoImplicit false

open Zone (utc)

variable {t : Timetable} {firstYear : Int} {c : Candidate} {u : Instant}

theorem pursue_utc {a : Aim} (supported : a.wall.isSupported = true) :
    ∃ v, pursue t utc a = .goOn ⟨v, false⟩ := by
  obtain ⟨first, last⟩ := WallTime.isSupported_iff.1 supported
  obtain ⟨v, found⟩ := Instant.exists_ofSeconds first last
  refine ⟨v, ?_⟩
  have resolved : utc.resolve? a.wall = some v := (Zone.resolve_utc _).trans found
  cases a with
  | day n =>
    have started := startOfSupportedDay_eq_some.2 ⟨supported, resolved⟩
    simp only [pursue, started]
    rfl
  | hour n h =>
    have shown : staysInJumpedHour t utc (WallTime.atHour n h) v = false := by
      simp only [Aim.wall] at found
      simp [staysInJumpedHour, Zone.isInGap, Zone.firstShowing_utc, found]
    simp only [Aim.wall] at supported resolved
    simp [pursue, supported, resolved, shown]

theorem addMinutes_exists {n : Nat} {w : WallTime} (le : u.seconds + 60 * (n : Int) ≤ w.count)
    (last : w.count ≤ lastSecond) : ∃ v, addMinutes? u n = some v := by
  have first := u.firstSecond_le
  exact ⟨⟨u.seconds + 60 * (n : Int), u.nanos, u.nanos_lt, by omega, by omega⟩,
    addMinutes_eq_some.2 ⟨rfl, rfl⟩⟩

variable {w : WallTime}

/-- The look at the minutes does not give up while a named minute is ahead. -/
theorem minuteStep_ne_giveUp (proper : t.Proper) (last : w.count ≤ lastSecond)
    (named : t.names w = true) (ahead : c.earliest ≤ w.count / 60) :
    minuteStep t utc c ≠ .giveUp := by
  obtain ⟨start, found, seconds, nanos⟩ := exists_startOfMinute_utc c.instant
  have minute := WallTime.minute_eq ⟨start.seconds⟩
  have minute' := w.minute_eq
  simp only at minute
  have from_le := Int.le_trans c.le_earliest ahead
  have least := @minute_first t ⟨start.seconds⟩ proper w
  simp only at least
  have member := (Timetable.names_iff.1 named).2.2
  unfold minuteStep
  simp only [found, Zone.wallAt_utc]
  split
  · rename_i first
    rw [Candidate.earliest, if_pos first.2] at ahead
    obtain ⟨v, moved⟩ := addMinutes_exists (u := start) (n := 1) (w := w) (by omega) last
    simp [moved, goOnAt]
  split
  · rename_i wraps
    -- The named minute is not in this hour, so the next full hour comes before it.
    have later : ¬ w.count / 3600 = start.seconds / 3600 := by
      intro same
      have := least same (by omega) member
      omega
    obtain ⟨v, moved⟩ := addMinutes_exists (u := start)
      (n := 60 - WallTime.minute ⟨start.seconds⟩) (w := w) (by omega) last
    simp [moved, goOnAt]
  · have reached : start.seconds + 60 * ((t.minutes.nextFrom (WallTime.minute ⟨start.seconds⟩) -
        WallTime.minute ⟨start.seconds⟩ : Nat) : Int) ≤ w.count := by
      have := proper.minute_lt _ (Values.nextFrom_mem proper.minutes (WallTime.minute ⟨start.seconds⟩))
      by_cases same : w.count / 3600 = start.seconds / 3600
      · have := least same (by omega) member
        omega
      · omega
    obtain ⟨v, moved⟩ := addMinutes_exists reached last
    simp [moved]

/-- A step does not give up while a named minute is ahead that it does not leap over. -/
theorem step_ne_giveUp (proper : t.Proper) (last : w.count ≤ lastSecond) (named : t.names w = true)
    (kept : ¬ LeaptOver t w.date) (ahead : c.earliest ≤ w.count / 60)
    (within : w.date.year ≤ firstYear + yearLimit) : step t utc firstYear c ≠ .giveUp := by
  have from_le := Int.le_trans c.le_earliest ahead
  have year : (utc.wallAt c.instant).date.year ≤ w.date.year := by
    apply Date.firstDay_le_iff_year.1
    have := Date.firstDay_le_iff_year.2 (Int.le_refl (utc.wallAt c.instant).date.year)
    apply Int.le_trans this
    rw [Zone.wallAt_utc]
    unfold WallTime.dayNumber secondsPerDay
    simp only
    omega
  cases aim : aim? t (utc.wallAt c.instant) with
  | none =>
    rw [step_of_fits proper (by omega) aim]
    exact minuteStep_ne_giveUp proper last named ahead
  | some a =>
    rw [step_of_aim proper (by omega) aim]
    rw [Zone.wallAt_utc] at aim
    have reached : a.wall.count ≤ w.count := by
      apply Int.not_lt.1
      intro passed
      exact kept (aim_passes proper aim from_le passed named)
    have first := c.instant.firstSecond_le
    have later := (aim_ahead proper aim).1
    simp only at later
    obtain ⟨v, moved⟩ := pursue_utc (t := t) (a := a) (WallTime.isSupported_iff.2 (by omega))
    rw [moved]
    exact nofun

/-- The search ends with a run before it has passed a named minute that it does not leap over. -/
theorem exists_run_of_steps (proper : t.Proper) (last : w.count ≤ lastSecond)
    (named : t.names w = true) (kept : ¬ LeaptOver t w.date)
    (within : w.date.year ≤ firstYear + yearLimit) {n : Nat} (ahead : c.earliest ≤ w.count / 60)
    (enough : w.count / 60 - c.instant.seconds / 60 < n) :
    ∃ u, iterate t utc firstYear n c = .runs u ∧ u.seconds ≤ w.count := by
  have from_le := Int.le_trans c.le_earliest ahead
  induction n generalizing c with
  | zero => omega
  | succ n ih =>
    have not_passed : ∀ {v}, Follows t c v → v.seconds ≤ w.count := by
      intro v follows
      apply Int.not_lt.1
      intro passed
      exact kept (follows.passes w named ahead passed)
    rcases step_utc proper firstYear c with h | ⟨v, h, moved, follows⟩ | ⟨u, h, follows, -⟩
    · exact absurd h (step_ne_giveUp proper last named kept ahead within)
    · have reached := not_passed follows
      have ahead' : Candidate.earliest ⟨v, false⟩ ≤ w.count / 60 := by
        rw [Candidate.earliest_moved]
        omega
      simp only [iterate, h]
      exact ih ahead' (by simp only; omega) (by simp only; omega)
    · refine ⟨u, ?_, not_passed follows⟩
      simp only [iterate, h]

/-- In the time that a search may take, it finds a run before it has passed a named minute that it
does not leap over. -/
theorem exists_run_utc (proper : t.Proper) {now : Instant} (last : w.count ≤ lastSecond)
    (named : t.names w = true) (kept : ¬ LeaptOver t w.date) (ahead : now.seconds / 60 < w.count / 60)
    (within : w.date.year ≤ (utc.wallAt now).date.year + yearLimit) :
    ∃ u, run? t utc now = some u ∧ u.seconds ≤ w.count := by
  have start := Date.firstDay_le_iff_year.2 (Int.le_refl (utc.wallAt now).date.year)
  have stop : w.dayNumber < Date.firstDay (12 * ((utc.wallAt now).date.year + yearLimit + 1)) := by
    apply Int.not_le.1
    intro le
    have : _ ≤ w.date.year := Date.firstDay_le_iff_year.1 le
    omega
  have span := Date.firstDay_le_add (12 * (utc.wallAt now).date.year) 108
  have day : (utc.wallAt now).dayNumber = now.seconds / 86400 := by
    rw [Zone.wallAt_utc]
    rfl
  have day' : w.dayNumber = w.count / 86400 := rfl
  have reaches : ∃ u, iterate t utc (utc.wallAt now).date.year stepLimit ⟨now, true⟩ = .runs u ∧
      u.seconds ≤ w.count := by
    apply exists_run_of_steps proper last named kept within
    · rw [Candidate.earliest_first]
      omega
    · rw [yearLimit, show 12 * ((utc.wallAt now).date.year + 8 + 1) =
        12 * (utc.wallAt now).date.year + ((108 : Nat) : Int) by omega] at stop
      unfold stepLimit
      simp only
      omega
  obtain ⟨u, found, reached⟩ := reaches
  exact ⟨u, run_eq_some.2 found, reached⟩

end CronCalendar.Search