import CronCalendar.Proofs.Search.Completeness
import CronCalendar.Proofs.Zone.Stretches

/-!
# Schedules that run every day

Where every date is named, the search only looks for the hour and the minute. From an hour that is not
named it jumps to the next full hour that is (`NextHour`), and within an hour it finds the first
named minute. Over a stretch of time without a change of the clock, a candidate that is moved on meets every
later start of a search that is still ahead of the run: the search that starts there finds the same
(`iterate_again`, by induction on the steps).
-/

namespace CronCalendar.Search
set_option autoImplicit false

/-- The next full hour behind the clock that is named. -/
structure NextHour (t : Timetable) (w next : WallTime) : Prop where
  full : next.count % 3600 = 0
  named : next.hour ∈ t.hours
  ahead : w.count < next.count
  first : ∀ v : WallTime, w.count ≤ v.count → v.count < next.count → v.hour ∉ t.hours

variable {t : Timetable} {z : Zone} {firstYear : Int} {c c' : Candidate} {b u : Instant}
  {w next : WallTime} {lo hi : Int}

/-- From a later time of the clock that is still before it, the next hour is the same. -/
theorem NextHour.later (h : NextHour t w next) {v : WallTime} (from_le : w.count ≤ v.count)
    (lt : v.count < next.count) : NextHour t v next where
  full := h.full
  named := h.named
  ahead := lt
  first v' le := h.first v' (Int.le_trans from_le le)

theorem NextHour.unique (h : NextHour t w next) {next' : WallTime} (h' : NextHour t w next') :
    next' = next := by
  apply WallTime.eq_of_count
  rcases Int.lt_trichotomy next'.count next.count with lt | eq | lt
  · exact absurd h'.named (h.first next' (Int.le_of_lt h'.ahead) lt)
  · exact eq
  · exact absurd h.named (h'.first next (Int.le_of_lt h.ahead) lt)

/-- The next hour is less than a day ahead of what the clock shows. -/
theorem NextHour.near (h : NextHour t w next) : next.count < w.count + 86400 := by
  apply Int.not_le.1
  intro far
  have dayBefore : WallTime.hour ⟨next.count - 86400⟩ = next.hour := by
    unfold WallTime.hour WallTime.secondOfDay secondsPerDay
    simp only
    omega
  apply h.first ⟨next.count - 86400⟩ (by simp only; omega) (by simp only; omega)
  rw [dayBefore]
  exact h.named

section
variable (proper : t.Proper) (everyDay : ∀ n, t.namesDate n = true)
include proper everyDay

/-- Where every date is named, the search moves on to the next hour, unless the hour is named. -/
theorem aim_everyDay (w : WallTime) :
    (w.hour ∈ t.hours ∧ aim? t w = none) ∨
      ∃ next, NextHour t w next ∧ aim? t w = some (.hour next.dayNumber next.hour) := by
  rcases aim_of_namesDate proper (everyDay w.dayNumber) with ⟨missed, aim⟩ | ⟨hour, aim⟩
  · right
    have lt := proper.hour_lt _ (Values.nextFrom_mem proper.hours w.hour)
    obtain ⟨day, hour, -⟩ := WallTime.atHour_parts (hourDay t w) lt
    obtain ⟨ahead, full⟩ := aim_ahead proper aim
    refine ⟨WallTime.atHour (hourDay t w) (t.hours.nextFrom w.hour), ⟨full, ?_, ahead, ?_⟩, ?_⟩
    · rw [hour]
      exact Values.nextFrom_mem proper.hours w.hour
    · intro v from_le before named
      have shown := w.count_eq
      have shown' := v.count_eq
      have hour_lt := w.hour_lt
      have hour_lt' := v.hour_lt
      have minute_lt := w.minute_lt
      have second_lt := w.second_lt
      have minute_lt' := v.minute_lt
      have second_lt' := v.second_lt
      rw [WallTime.count_atHour, hourDay] at before
      split at before
      · exact Values.not_mem_of_nextFrom_lt proper.hours (n := w.hour) (by omega) (by omega) named
      · exact Values.not_mem_of_lt_nextFrom proper.hours (n := w.hour) (by omega) (by omega) named
    · rw [day, hour, aim]
  · exact Or.inl ⟨hour, aim⟩

theorem aim_of_nextHour (h : NextHour t w next) :
    aim? t w = some (.hour next.dayNumber next.hour) := by
  rcases aim_everyDay proper everyDay w with ⟨hour, -⟩ | ⟨next', h', aim⟩
  · exact absurd hour (h.first w (Int.le_refl _) h.ahead)
  · rw [aim, h.unique h']

end

/-- The jump to a full hour. -/
theorem pursue_hour (full : w.count % 3600 = 0) :
    pursue t z (.hour w.dayNumber w.hour) =
      if w.isSupported then
        match z.resolve? w with
        | none => .giveUp
        | some target =>
          if staysInJumpedHour t z w target then minuteStep t z ⟨target, false⟩
          else .goOn ⟨target, false⟩
      else .giveUp := by
  rewrite [pursue, WallTime.atHour_of_full full]
  rfl

/-- A jump to a full hour that is shown goes on from the first instant that shows it. -/
theorem pursue_shown (full : w.count % 3600 = 0) (supported : w.isSupported = true)
    (shown : z.firstShowing? w = some u) :
    pursue t z (.hour w.dayNumber w.hour) = .goOn ⟨u, false⟩ := by
  have resolved : z.resolve? w = some u := by
    rw [Zone.resolve?, shown]
  have leaves : staysInJumpedHour t z w u = false := by
    simp [staysInJumpedHour, Zone.isInGap, shown]
  rw [pursue_hour full, if_pos supported, resolved]
  simp [leaves]

/-! ## The minutes of a stretch -/

theorem minuteStep_eq {start : Instant} (found : startOfMinute? z c.instant = some start) :
    minuteStep t z c =
      if t.minutes.nextFrom (z.wallAt start).minute = (z.wallAt start).minute ∧ c.untouched then
        goOnAt (addMinutes? start 1)
      else if t.minutes.nextFrom (z.wallAt start).minute < (z.wallAt start).minute then
        goOnAt (addMinutes? start (60 - (z.wallAt start).minute))
      else
        match addMinutes? start
            (t.minutes.nextFrom (z.wallAt start).minute - (z.wallAt start).minute) with
        | some found => .runs found
        | none => .giveUp := by
  rewrite [minuteStep, found]
  rfl

section
variable (stretch : z.Stretch lo hi)
include stretch

/-- On a stretch, the minute begins at the same reading. -/
theorem startOfMinute_on {v start : Instant} (from_le : lo ≤ z.minuteStart v) (le : v.seconds ≤ hi)
    (found : startOfMinute? z v = some start) :
    start.seconds = z.minuteStart v ∧ start.nanos = 0 ∧
      (z.wallAt start).minute = (z.wallAt v).minute := by
  obtain ⟨seconds, nanos⟩ := startOfMinute_eq_some.1 found
  have place : z.minuteStart v = v.seconds - (z.wallAt v).second := rfl
  have second := (z.wallAt v).second_eq
  have count := stretch.wallAt_eq (v := v) (by omega) le
  have count' := stretch.wallAt_eq (v := start) (by omega) (by omega)
  have minute := (z.wallAt v).minute_eq
  have minute' := (z.wallAt start).minute_eq
  exact ⟨seconds, nanos, by omega⟩

/-- The look at the minutes from a later instant of the hour comes to the same, as long as no named minute
lies between and the later minute is not the one that is found. -/
theorem minuteStep_later (proper : t.Proper) (from_le : lo ≤ z.minuteStart c.instant)
    (le : c.instant.seconds ≤ b.seconds) (inside : b.seconds ≤ hi) {start : Instant}
    (start_eq : startOfMinute? z c.instant = some start)
    (same : (z.wallAt b).count / 3600 = (z.wallAt c.instant).count / 3600)
    (none : ∀ m ∈ t.minutes, (z.wallAt c.instant).minute ≤ m → (z.wallAt b).minute ≤ m)
    (ahead : t.minutes.nextFrom (z.wallAt c.instant).minute = (z.wallAt b).minute →
      (z.wallAt b).minute = (z.wallAt c.instant).minute ∧ c.untouched = true) :
    minuteStep t z ⟨b, true⟩ = minuteStep t z c := by
  have place : z.minuteStart c.instant = c.instant.seconds - (z.wallAt c.instant).second := rfl
  have place' : z.minuteStart b = b.seconds - (z.wallAt b).second := rfl
  have from_le' : lo ≤ z.minuteStart b := stretch.le_minuteStart (by omega) inside
  have count := stretch.wallAt_eq (v := c.instant) (by omega) (by omega)
  have count' := stretch.wallAt_eq (v := b) (by omega) inside
  have second := (z.wallAt c.instant).second_eq
  have second' := (z.wallAt b).second_eq
  have minute := (z.wallAt c.instant).minute_eq
  have minute' := (z.wallAt b).minute_eq
  have minute_lt := (z.wallAt b).minute_lt
  obtain ⟨seconds, nanos, reading⟩ := startOfMinute_on stretch from_le (by omega) start_eq
  have floor := start.firstSecond_le
  have last := b.le_lastSecond
  obtain ⟨start', start_eq'⟩ := @Instant.exists_ofSeconds (z.minuteStart b) (by omega) (by omega)
  obtain ⟨seconds', nanos', reading'⟩ := startOfMinute_on stretch from_le' inside start_eq'
  have later : (z.wallAt c.instant).minute ≤ (z.wallAt b).minute := by omega
  have next := Values.nextFrom_of_none_between proper.minutes later none
  have member := Values.nextFrom_mem proper.minutes (z.wallAt c.instant).minute
  have apart : start.seconds + 60 * ((z.wallAt b).minute : Int) =
      start'.seconds + 60 * ((z.wallAt c.instant).minute : Int) := by omega
  rw [minuteStep_eq start_eq, reading, minuteStep_eq (c := ⟨b, true⟩) start_eq', reading', next]
  by_cases found : t.minutes.nextFrom (z.wallAt c.instant).minute = (z.wallAt b).minute
  · obtain ⟨same_minute, untouched⟩ := ahead found
    rw [if_pos ⟨found, rfl⟩, if_pos ⟨found.trans same_minute, untouched⟩]
    exact congrArg goOnAt (addMinutes_congr (by omega) (nanos'.trans nanos.symm))
  · have new : ¬ (t.minutes.nextFrom (z.wallAt c.instant).minute = (z.wallAt c.instant).minute ∧
        c.untouched = true) := by
      rintro ⟨here, -⟩
      have := none _ member (Nat.le_of_eq here.symm)
      omega
    rw [if_neg (fun h => found h.1), if_neg new]
    by_cases wraps : t.minutes.nextFrom (z.wallAt c.instant).minute < (z.wallAt c.instant).minute
    · rw [if_pos (by omega), if_pos wraps]
      exact congrArg goOnAt (addMinutes_congr (by omega) (nanos'.trans nanos.symm))
    · have := none _ member (Nat.le_of_not_lt wraps)
      have moved := @addMinutes_congr start' start
        (t.minutes.nextFrom (z.wallAt c.instant).minute - (z.wallAt b).minute)
        (t.minutes.nextFrom (z.wallAt c.instant).minute - (z.wallAt c.instant).minute) (by omega)
        (nanos'.trans nanos.symm)
      rw [if_neg (by omega), if_neg wraps, moved]

/-- The look at the minutes from a later instant, before the run that it finds, comes to the same, unless
the first one has moved no further than that instant. -/
theorem minuteStep_again (proper : t.Proper) (from_le : lo ≤ z.minuteStart c.instant)
    (le : c.instant.seconds ≤ b.seconds) (inside : b.seconds ≤ hi)
    (moves : minuteStep t z c ≠ .giveUp) :
    (∃ c', minuteStep t z c = .goOn c' ∧ lo ≤ c'.instant.seconds ∧ c'.instant.seconds ≤ b.seconds) ∨
      (∃ v, minuteStep t z c = .runs v ∧ v.seconds < z.minuteStart b + 60) ∨
      (z.wallAt b).hour = (z.wallAt c.instant).hour ∧ minuteStep t z ⟨b, true⟩ = minuteStep t z c := by
  have place : z.minuteStart c.instant = c.instant.seconds - (z.wallAt c.instant).second := rfl
  have place' : z.minuteStart b = b.seconds - (z.wallAt b).second := rfl
  have count := stretch.wallAt_eq (v := c.instant) (by omega) (by omega)
  have count' := stretch.wallAt_eq (v := b) (by omega) inside
  have second := (z.wallAt c.instant).second_eq
  have second' := (z.wallAt b).second_eq
  have minute := (z.wallAt c.instant).minute_eq
  have minute' := (z.wallAt b).minute_eq
  have next_lt := proper.minute_lt _ (Values.nextFrom_mem proper.minutes (z.wallAt c.instant).minute)
  cases moved : minuteStep t z c with
  | giveUp => exact absurd moved moves
  | goOn c' =>
    obtain ⟨-, start, start_eq, next⟩ := minuteStep_goOn moved
    obtain ⟨seconds, -, reading⟩ := startOfMinute_on stretch from_le (by omega) start_eq
    rw [reading] at next
    by_cases reached : c'.instant.seconds ≤ b.seconds
    · refine Or.inl ⟨c', rfl, ?_, reached⟩
      rcases next with ⟨-, -, next⟩ | ⟨-, next⟩
      · have := (addMinutes_eq_some.1 next).1
        omega
      · have := (addMinutes_eq_some.1 next).1
        omega
    · right
      right
      rcases next with ⟨untouched, found, next⟩ | ⟨wraps, next⟩
      · have := (addMinutes_eq_some.1 next).1
        have same : (z.wallAt b).minute = (z.wallAt c.instant).minute := by omega
        refine ⟨(WallTime.sameHour (by omega)).2, ?_⟩
        rw [← moved]
        exact minuteStep_later stretch proper from_le le inside start_eq (by omega)
          (fun m _ le => by omega) fun _ => ⟨same, untouched⟩
      · have := (addMinutes_eq_some.1 next).1
        refine ⟨(WallTime.sameHour (by omega)).2, ?_⟩
        rw [← moved]
        exact minuteStep_later stretch proper from_le le inside start_eq (by omega)
          (fun m member le =>
            absurd member (Values.not_mem_of_nextFrom_lt proper.minutes wraps (Or.inl le)))
          fun here => by omega
  | runs v =>
    obtain ⟨start, start_eq, ahead, -, next⟩ := minuteStep_runs moved
    obtain ⟨seconds, -, reading⟩ := startOfMinute_on stretch from_le (by omega) start_eq
    rw [reading] at ahead next
    have := (addMinutes_eq_some.1 next).1
    by_cases reached : v.seconds < z.minuteStart b + 60
    · exact Or.inr (Or.inl ⟨v, rfl, reached⟩)
    · right
      right
      refine ⟨(WallTime.sameHour (by omega)).2, ?_⟩
      rw [← moved]
      exact minuteStep_later stretch proper from_le le inside start_eq (by omega)
        (fun m member le => Nat.le_of_not_lt fun lt =>
          Values.not_mem_of_lt_nextFrom proper.minutes le (by omega) member)
        fun here => by omega

end

/-! ## Searches on a stretch -/

section
variable (proper : t.Proper) (everyDay : ∀ n, t.namesDate n = true)
include proper everyDay

/-- From a full hour that is named, the run is found in that hour. -/
theorem run_of_fullHour {v : Instant} {n : Nat} (nanos : v.nanos = 0)
    (full : (z.wallAt v).count % 3600 = 0) (named : (z.wallAt v).hour ∈ t.hours)
    (h : iterate t z firstYear n ⟨v, false⟩ = .runs u) :
    u.seconds = v.seconds + 60 * (t.minutes.nextFrom 0 : Int) ∧ u.nanos = 0 := by
  have fits : aim? t (z.wallAt v) = none := (aim_eq_none_iff proper).2 ⟨everyDay _, named⟩
  have look := step_of_fits (c := ⟨v, false⟩) proper (within_of_iterate h) fits
  rcases iterate_runs_cases h with found | ⟨c', m, moved, -⟩
  · exact (minuteStep_fullHour_iff nanos full).1 (look.symm.trans found)
  · exact absurd (look.symm.trans moved) (minuteStep_fullHour_ne_goOn nanos full)

/-- There is a run in that hour. -/
theorem iterate_of_fullHour {v : Instant} {n : Nat} (nanos : v.nanos = 0)
    (full : (z.wallAt v).count % 3600 = 0) (named : (z.wallAt v).hour ∈ t.hours)
    (within : (z.wallAt v).date.year ≤ firstYear + yearLimit) (last : v.seconds + 3600 ≤ lastSecond)
    (enough : 0 < n) :
    ∃ u, iterate t z firstYear n ⟨v, false⟩ = .runs u ∧
      u.seconds = v.seconds + 60 * (t.minutes.nextFrom 0 : Int) := by
  have fits : aim? t (z.wallAt v) = none := (aim_eq_none_iff proper).2 ⟨everyDay _, named⟩
  obtain ⟨u, look, seconds⟩ := exists_minuteStep_runs (t := t) proper nanos full last
  have found := (step_of_fits (c := ⟨v, false⟩) proper within fits).trans look
  exact ⟨u, iterate_of_runs found enough, seconds⟩

variable (stretch : z.Stretch lo hi)
include stretch

/-- A step on a stretch stays before a later instant, or does what the first step of a search from
there does, unless it finds a run that is not ahead of it or jumps back behind the stretch. -/
theorem step_again (from_le : lo ≤ z.minuteStart c.instant) (le : c.instant.seconds ≤ b.seconds)
    (inside : b.seconds ≤ hi) (moves : step t z firstYear c ≠ .giveUp) :
    (∃ c', step t z firstYear c = .goOn c' ∧ lo ≤ c'.instant.seconds ∧
        c'.instant.seconds ≤ b.seconds) ∨
      (∃ v, step t z firstYear c = .runs v ∧ v.seconds < z.minuteStart b + 60) ∨
      (∃ v, step t z firstYear c = .goOn ⟨v, false⟩ ∧ v.seconds + 3600 ≤ lo ∧ v.nanos = 0 ∧
        (z.wallAt v).count % 3600 = 0 ∧ (z.wallAt v).hour ∈ t.hours) ∨
      step t z (z.wallAt b).date.year ⟨b, true⟩ = step t z firstYear c := by
  have within : (z.wallAt b).date.year ≤ (z.wallAt b).date.year + yearLimit :=
    le_yearLimit (Int.le_add_one (Int.le_refl _))
  have bounds := minuteStart_bounds z c.instant
  rcases aim_everyDay proper everyDay (z.wallAt c.instant) with ⟨hour, fits⟩ | ⟨next, ahead, aim⟩
  · have look := step_of_fits (c := c) proper (within_of_step moves) fits
    rw [look] at moves ⊢
    rcases minuteStep_again stretch proper from_le le inside moves with stays | found | ⟨same, again⟩
    · exact Or.inl stays
    · exact Or.inr (Or.inl found)
    · have fits' : aim? t (z.wallAt b) = none :=
        (aim_eq_none_iff proper).2 ⟨everyDay _, by rw [same]; exact hour⟩
      right; right; right
      rw [step_of_fits (c := ⟨b, true⟩) proper within fits', again]
  · have jump := step_of_aim (c := c) proper (within_of_step moves) aim
    rw [jump] at moves ⊢
    have count := stretch.wallAt_eq (v := c.instant) (by omega) (by omega)
    have count' := stretch.wallAt_eq (v := b) (by omega) inside
    by_cases before : (z.wallAt b).count < next.count
    · have aim' := aim_of_nextHour proper everyDay (ahead.later (by omega) before)
      right; right; right
      exact step_of_aim (c := ⟨b, true⟩) proper within aim'
    · have floor := c.instant.firstSecond_le
      have last := b.le_lastSecond
      have later := ahead.ahead
      obtain ⟨y, seconds, -⟩ := @Instant.exists_at (next.count - z.offsetAt lo) (by omega) (by omega)
      obtain ⟨v, shown, nanos, wall, place⟩ :=
        stretch.resolve (u := y) ahead.full (by omega) (by omega) (by omega)
      have supported : next.isSupported = true := by
        apply Decidable.byContradiction
        intro outside
        exact moves (by rw [pursue_hour ahead.full, if_neg outside])
      have goes := pursue_shown (t := t) ahead.full supported shown
      rcases place with same | back
      · exact Or.inl ⟨_, goes, by simp only; omega, by simp only; omega⟩
      · right; right; left
        refine ⟨v, goes, back, nanos, ?_, ?_⟩
        · rw [wall]
          exact ahead.full
        · rw [wall]
          exact ahead.named

/-- On a stretch, a search that starts ahead of a candidate of another search, in a minute that ends before
the run, finds the same run. -/
theorem iterate_again (inside : b.seconds ≤ hi) (year : firstYear ≤ (z.wallAt b).date.year)
    (ahead : z.minuteStart b + 60 ≤ u.seconds) {n : Nat} (from_le : lo ≤ z.minuteStart c.instant)
    (le : c.instant.seconds ≤ b.seconds) (h : iterate t z firstYear n c = .runs u) :
    iterate t z (z.wallAt b).date.year n ⟨b, true⟩ = .runs u := by
  induction n generalizing c with
  | zero => cases h
  | succ n ih =>
    have moves : step t z firstYear c ≠ .giveUp := by
      intro stops
      simp only [iterate, stops] at h
      cases h
    rcases step_again proper everyDay stretch from_le le inside moves with
      ⟨c', moved, from_le', le'⟩ | ⟨v, found, early⟩ | ⟨v, moved, back, nanos, full, named⟩ | same
    · simp only [iterate, moved] at h
      have rest := ih (stretch.le_minuteStart from_le' (by omega)) le' h
      exact iterate_mono rest (Int.le_refl _) (Nat.le_succ n)
    · simp only [iterate, found] at h
      cases h
      omega
    · simp only [iterate, moved] at h
      obtain ⟨seconds, -⟩ := run_of_fullHour proper everyDay nanos full named h
      have lt := proper.minute_lt _ (Values.nextFrom_mem proper.minutes 0)
      have bounds := minuteStart_bounds z b
      have bounds' := minuteStart_bounds z c.instant
      omega
    · simp only [iterate, same] at h ⊢
      cases moved : step t z firstYear c with
      | goOn c' =>
        rw [moved] at h
        exact iterate_mono h year (Nat.le_refl n)
      | runs v =>
        rw [moved] at h
        exact h
      | giveUp => exact absurd moved moves

end

end CronCalendar.Search
