import CronCalendar.Proofs.Search.Aims
import CronCalendar.Proofs.Zone.Showing

/-!
# The steps of the search, in any zone

A step either pursues the aim of what the clock shows or looks at the minutes; `step_eq` says so in
one equation, and the inversions behind it say where a step can come from. A step looks at the
minutes of its own hour, or, when its aim lies in a gap, of the hour that the clock jumps to (`Looks`).
What each step preserves holds of the candidate that the last step starts from (`exists_last_step`).
-/

namespace CronCalendar.Search
set_option autoImplicit false

/-- What a step does with an aim. -/
def pursue (t : Timetable) (z : Zone) : Aim → Outcome
  | .day n => goOnAt (startOfSupportedDay? z n)
  | .hour n h =>
    if (WallTime.atHour n h).isSupported then
      match z.resolve? (WallTime.atHour n h) with
      | none => .giveUp
      | some target =>
        if staysInJumpedHour t z (WallTime.atHour n h) target then minuteStep t z ⟨target, false⟩
        else .goOn ⟨target, false⟩
    else .giveUp

variable {t : Timetable} {z : Zone} {firstYear : Int} {c c' : Candidate} {u : Instant}

theorem staysInJumpedHour_iff {w : WallTime} {target : Instant} :
    staysInJumpedHour t z w target = true ↔
      z.isInGap w = true ∧ (z.wallAt target).hour ∉ t.hours ∧
        (z.wallAt target).dayNumber = w.dayNumber := by
  rw [staysInJumpedHour, Bool.and_eq_true, Bool.and_eq_true, Bool.not_eq_true', Bool.eq_false_iff, Ne,
    Values.contains_iff, beq_iff_eq, and_assoc]

theorem startOfMonth_eq {year : Int} {month : Nat} (first : 1 ≤ month) (last : month ≤ 12) :
    startOfMonth? z year month = startOfSupportedDay? z (Date.firstDay (12 * year + month - 1)) := by
  have valid : Date.isValid ⟨year, month, 1⟩ = true := by
    have := Date.daysInMonth_bounds year month
    rw [Date.isValid_iff]
    simp only
    omega
  have number : Date.dayNumber ⟨year, month, 1⟩ = Date.firstDay (12 * year + month - 1) := by
    rw [Date.dayNumber_eq_firstDay valid]
    simp [Date.monthNumber]
  unfold startOfMonth? startOfSupportedDay?
  rw [WallTime.ofDay_zero, WallTime.isSupported_atHour _ (by decide), ← number,
    Date.ofDayNumber_dayNumber valid]

theorem startOfNextMonth_eq (proper : t.Proper) {d : Date} :
    startOfMonth? z (if t.months.nextFrom d.month < d.month then d.year + 1 else d.year)
        (t.months.nextFrom d.month) = startOfSupportedDay? z (Date.firstDay (nextMonth t d)) := by
  have found := proper.month_bounds _ (Values.nextFrom_mem proper.months d.month)
  rw [startOfMonth_eq found.1 found.2]
  rfl

/-- A step pursues the aim of what the clock shows, or looks at the minutes if there is none. -/
theorem step_eq (proper : t.Proper) :
    step t z firstYear c =
      if yearLimit < (z.wallAt c.instant).date.year - firstYear then .giveUp
      else match aim? t (z.wallAt c.instant) with
        | none => minuteStep t z c
        | some a => pursue t z a := by
  unfold step monthStep dayStep hourStep aim?
  simp only [startOfNextMonth_eq proper]
  congr 1
  by_cases month : t.months.nextFrom (z.wallAt c.instant).date.month = (z.wallAt c.instant).date.month
  · rw [if_pos month, if_neg (not_not_intro month)]
    by_cases day : dayOffset t (z.wallAt c.instant).date (z.wallAt c.instant).weekday = 0
    · rw [if_pos day, if_neg (not_not_intro day)]
      by_cases hour : t.hours.nextFrom (z.wallAt c.instant).hour = (z.wallAt c.instant).hour
      · rw [if_pos hour, if_neg (not_not_intro hour)]
      · rw [if_neg hour, if_pos hour]
        rfl
    · rw [if_neg day, if_pos day]
      rfl
  · rw [if_neg month, if_pos month]
    rfl

/-- Within the years, a step looks at the minutes where nothing is left to aim at, -/
theorem step_of_fits (proper : t.Proper)
    (within : (z.wallAt c.instant).date.year ≤ firstYear + yearLimit)
    (fits : aim? t (z.wallAt c.instant) = none) : step t z firstYear c = minuteStep t z c := by
  rw [step_eq proper, if_neg (by omega), fits]

/-- and pursues the aim where there is one. -/
theorem step_of_aim (proper : t.Proper) {a : Aim}
    (within : (z.wallAt c.instant).date.year ≤ firstYear + yearLimit)
    (aim : aim? t (z.wallAt c.instant) = some a) : step t z firstYear c = pursue t z a := by
  rw [step_eq proper, if_neg (by omega), aim]

/-- A step that does not give up is within the years. -/
theorem within_of_step (some : step t z firstYear c ≠ .giveUp) :
    (z.wallAt c.instant).date.year ≤ firstYear + yearLimit := by
  unfold step at some
  split at some
  · exact absurd rfl some
  · omega

theorem le_yearLimit {year firstYear : Int} (h : year ≤ firstYear + 1) :
    year ≤ firstYear + yearLimit := by
  unfold yearLimit
  omega

/-- How a step comes to look at the minutes: where it stands, or after a jump over a gap. -/
inductive Looks (t : Timetable) (z : Zone) (c : Candidate) : Candidate → Prop
  | stands (none : aim? t (z.wallAt c.instant) = none) : Looks t z c c
  | jumped {n : Int} {h : Nat} {target : Instant}
      (aim : aim? t (z.wallAt c.instant) = some (.hour n h))
      (supported : (WallTime.atHour n h).isSupported = true)
      (resolved : z.resolve? (WallTime.atHour n h) = some target)
      (stays : staysInJumpedHour t z (WallTime.atHour n h) target = true) :
      Looks t z c ⟨target, false⟩

/-- Moving to an instant ends the search only for want of it. -/
theorem goOnAt_eq_goOn {found : Option Instant} :
    goOnAt found = .goOn c' ↔ found = some c'.instant ∧ c'.untouched = false := by
  obtain ⟨instant, untouched⟩ := c'
  cases found with
  | none => simp [goOnAt]
  | some v => simp [goOnAt, eq_comm]

theorem goOnAt_ne_runs {found : Option Instant} : goOnAt found ≠ .runs u := by
  cases found <;> simp [goOnAt]

theorem startOfSupportedDay_eq_some {n : Int} :
    startOfSupportedDay? z n = some u ↔
      (WallTime.ofDay n 0).isSupported = true ∧ z.resolve? (WallTime.ofDay n 0) = some u := by
  unfold startOfSupportedDay? Zone.startOfDay?
  split
  · simp [*]
  · simp [*]

/-- What a step comes to: it gives up, moves to its aim, or looks at the minutes. -/
theorem step_cases (proper : t.Proper) (firstYear : Int) (c : Candidate) :
    step t z firstYear c = .giveUp ∨
    (∃ a target, aim? t (z.wallAt c.instant) = some a ∧ a.wall.isSupported = true ∧
      z.resolve? a.wall = some target ∧ step t z firstYear c = .goOn ⟨target, false⟩) ∨
    ∃ b, Looks t z c b ∧ step t z firstYear c = minuteStep t z b := by
  rw [step_eq proper]
  split
  · exact Or.inl rfl
  split
  · rename_i none
    exact Or.inr (Or.inr ⟨c, Looks.stands none, rfl⟩)
  · rename_i a aim
    cases a with
    | day n =>
      simp only [pursue]
      cases found : startOfSupportedDay? z n with
      | none => exact Or.inl rfl
      | some target =>
        obtain ⟨supported, resolved⟩ := startOfSupportedDay_eq_some.1 found
        exact Or.inr (Or.inl ⟨_, target, aim, supported, resolved, rfl⟩)
    | hour n hour =>
      simp only [pursue]
      split
      · rename_i supported
        split
        · exact Or.inl rfl
        · rename_i target resolved
          split
          · rename_i stays
            exact Or.inr (Or.inr ⟨_, Looks.jumped aim supported resolved stays, rfl⟩)
          · exact Or.inr (Or.inl ⟨_, target, aim, supported, resolved, rfl⟩)
      · exact Or.inl rfl

/-- A step goes on from the instant of its aim, or from where the look at the minutes moves it. -/
theorem step_goOn (proper : t.Proper) (h : step t z firstYear c = .goOn c') :
    (∃ a, aim? t (z.wallAt c.instant) = some a ∧ a.wall.isSupported = true ∧
      z.resolve? a.wall = some c'.instant ∧ c'.untouched = false) ∨
    ∃ b, Looks t z c b ∧ minuteStep t z b = .goOn c' := by
  rcases step_cases proper firstYear c with h' | ⟨a, target, aim, supported, resolved, h'⟩ | ⟨b, looks, h'⟩
  · exact nomatch h.symm.trans h'
  · obtain rfl : c' = ⟨target, false⟩ := Outcome.goOn.inj (h.symm.trans h')
    exact Or.inl ⟨a, aim, supported, resolved, rfl⟩
  · exact Or.inr ⟨b, looks, h'.symm.trans h⟩

/-- A step that finds a run has looked at the minutes. -/
theorem step_runs (proper : t.Proper) (h : step t z firstYear c = .runs u) :
    ∃ b, Looks t z c b ∧ minuteStep t z b = .runs u := by
  rcases step_cases proper firstYear c with h' | ⟨a, target, -, -, -, h'⟩ | ⟨b, looks, h'⟩
  · exact nomatch h.symm.trans h'
  · exact nomatch h.symm.trans h'
  · exact ⟨b, looks, h'.symm.trans h⟩

/-! ## The minutes -/

theorem startOfMinute_eq_some {v : Instant} :
    startOfMinute? z u = some v ↔ v.seconds = u.seconds - (z.wallAt u).second ∧ v.nanos = 0 := by
  rw [startOfMinute?, Instant.ofSeconds_eq_some_iff]

theorem addMinutes_eq_some {n : Nat} {v : Instant} :
    addMinutes? u n = some v ↔ v.seconds = u.seconds + 60 * n ∧ v.nanos = u.nanos := by
  rw [addMinutes?, Instant.addSeconds?, Instant.of?_eq_some_iff]

theorem addMinutes_congr {v : Instant} {n m : Nat}
    (seconds : u.seconds + 60 * (n : Int) = v.seconds + 60 * (m : Int)) (nanos : u.nanos = v.nanos) :
    addMinutes? u n = addMinutes? v m := by
  unfold addMinutes? Instant.addSeconds?
  rw [seconds, nanos]

/-- The look at the minutes goes on to the next minute, when it may not take the one in which the
search started, or to the end of the hour. -/
theorem minuteStep_goOn (h : minuteStep t z c = .goOn c') :
    c'.untouched = false ∧ ∃ start, startOfMinute? z c.instant = some start ∧
      ((c.untouched = true ∧ t.minutes.nextFrom (z.wallAt start).minute = (z.wallAt start).minute ∧
          addMinutes? start 1 = some c'.instant) ∨
        (t.minutes.nextFrom (z.wallAt start).minute < (z.wallAt start).minute ∧
          addMinutes? start (60 - (z.wallAt start).minute) = some c'.instant)) := by
  unfold minuteStep at h
  split at h
  · cases h
  rename_i start found
  simp only at h
  split at h
  · rename_i first
    obtain ⟨moved, touched⟩ := goOnAt_eq_goOn.1 h
    exact ⟨touched, start, found, Or.inl ⟨first.2, first.1, moved⟩⟩
  split at h
  · rename_i wraps
    obtain ⟨moved, touched⟩ := goOnAt_eq_goOn.1 h
    exact ⟨touched, start, found, Or.inr ⟨wraps, moved⟩⟩
  split at h <;> cases h

/-- The look at the minutes finds a run in the rest of the hour. -/
theorem minuteStep_runs (h : minuteStep t z c = .runs u) :
    ∃ start, startOfMinute? z c.instant = some start ∧
      (z.wallAt start).minute ≤ t.minutes.nextFrom (z.wallAt start).minute ∧
      (c.untouched = true → (z.wallAt start).minute < t.minutes.nextFrom (z.wallAt start).minute) ∧
      addMinutes? start (t.minutes.nextFrom (z.wallAt start).minute - (z.wallAt start).minute) =
        some u := by
  unfold minuteStep at h
  split at h
  · cases h
  rename_i start found
  simp only at h
  split at h
  · exact absurd h goOnAt_ne_runs
  rename_i first
  split at h
  · exact absurd h goOnAt_ne_runs
  split at h
  · rename_i moved
    cases h
    refine ⟨start, found, by omega, ?_, moved⟩
    intro untouched
    have : t.minutes.nextFrom (z.wallAt start).minute ≠ (z.wallAt start).minute :=
      fun same => first ⟨same, untouched⟩
    omega
  · cases h

/-- From a full hour, the look at the minutes finds the first that is named. -/
theorem minuteStep_fullHour_iff {target : Instant} (nanos : target.nanos = 0)
    (full : (z.wallAt target).count % 3600 = 0) :
    minuteStep t z ⟨target, false⟩ = .runs u ↔
      u.seconds = target.seconds + 60 * (t.minutes.nextFrom 0 : Int) ∧ u.nanos = 0 := by
  have second := (z.wallAt target).second_eq
  have minute := (z.wallAt target).minute_eq
  have minute : (z.wallAt target).minute = 0 := by omega
  have start : startOfMinute? z target = some target := startOfMinute_eq_some.2 (by omega)
  have moved := addMinutes_eq_some (u := target) (v := u) (n := t.minutes.nextFrom 0)
  rw [nanos] at moved
  rw [← moved]
  cases found : addMinutes? target (t.minutes.nextFrom 0) with
  | none => simp [minuteStep, start, minute, found]
  | some v => simp [minuteStep, start, minute, found]

/-- The hour lasts long enough for that minute. -/
theorem exists_minuteStep_runs (proper : t.Proper) {target : Instant} (nanos : target.nanos = 0)
    (full : (z.wallAt target).count % 3600 = 0) (last : target.seconds + 3600 ≤ lastSecond) :
    ∃ u, minuteStep t z ⟨target, false⟩ = .runs u ∧
      u.seconds = target.seconds + 60 * (t.minutes.nextFrom 0 : Int) := by
  have lt := proper.minute_lt _ (Values.nextFrom_mem proper.minutes 0)
  have floor := target.firstSecond_le
  obtain ⟨u, at_u⟩ := @Instant.exists_at (target.seconds + 60 * (t.minutes.nextFrom 0 : Int)) (by omega)
    (by omega)
  exact ⟨u, (minuteStep_fullHour_iff nanos full).2 at_u, at_u.1⟩

/-- The look at the minutes of a full hour never wraps. -/
theorem minuteStep_fullHour_ne_goOn {target : Instant} (nanos : target.nanos = 0)
    (full : (z.wallAt target).count % 3600 = 0) : minuteStep t z ⟨target, false⟩ ≠ .goOn c' := by
  intro moved
  obtain ⟨-, start, found, ⟨untouched, -⟩ | ⟨wraps, -⟩⟩ := minuteStep_goOn moved
  · cases untouched
  · have minute := (z.wallAt start).minute_eq
    have second := (z.wallAt target).second_eq
    obtain ⟨seconds, nanos'⟩ := startOfMinute_eq_some.1 found
    obtain rfl : start = target := Instant.eq_of_parts (by simp only at seconds; omega)
      (nanos'.trans nanos.symm)
    omega

/-! ## Whole runs -/

/-- What the first candidate has and every step preserves holds of the candidate from which the
last step finds the run. -/
theorem exists_last_step (inv : Candidate → Prop)
    (preserved : ∀ c c', inv c → step t z firstYear c = .goOn c' → inv c') {n : Nat} (first : inv c)
    (h : iterate t z firstYear n c = .runs u) :
    ∃ last, inv last ∧ step t z firstYear last = .runs u := by
  induction n generalizing c with
  | zero => cases h
  | succ n ih =>
    unfold iterate at h
    split at h
    · rename_i c' moved
      exact ih (preserved c c' first moved) h
    · exact ⟨c, first, h⟩

/-- Runs are found at the start of a second. -/
theorem iterate_nanos (proper : t.Proper) {n : Nat} (h : iterate t z firstYear n c = .runs u) :
    u.nanos = 0 := by
  obtain ⟨last, -, found⟩ := exists_last_step (fun _ => True) (fun _ _ _ _ => trivial) trivial h
  obtain ⟨b, -, found⟩ := step_runs proper found
  obtain ⟨start, start_eq, -, -, moved⟩ := minuteStep_runs found
  exact (addMinutes_eq_some.1 moved).2.trans (startOfMinute_eq_some.1 start_eq).2

/-- A run is found by the first step or behind it. -/
theorem iterate_runs_cases {n : Nat} (h : iterate t z firstYear n c = .runs u) :
    step t z firstYear c = .runs u ∨
      ∃ c' m, step t z firstYear c = .goOn c' ∧ iterate t z firstYear m c' = .runs u := by
  cases n with
  | zero => cases h
  | succ n =>
    unfold iterate at h
    split at h
    · rename_i c' moved
      exact Or.inr ⟨c', n, moved, h⟩
    · exact Or.inl h

/-- A search that finds a run is within the years. -/
theorem within_of_iterate {n : Nat} (h : iterate t z firstYear n c = .runs u) :
    (z.wallAt c.instant).date.year ≤ firstYear + yearLimit := by
  apply within_of_step
  intro stops
  rcases iterate_runs_cases h with found | ⟨c', m, moved, -⟩
  · rw [stops] at found
    cases found
  · rw [stops] at moved
    cases moved

/-- A run that the first step does not find is found from where it goes. -/
theorem iterate_of_step {n : Nat} (moved : step t z firstYear c = .goOn c')
    (h : iterate t z firstYear n c = .runs u) : ∃ m, iterate t z firstYear m c' = .runs u := by
  rcases iterate_runs_cases h with found | ⟨c'', m, moved', rest⟩
  · rw [moved] at found
    cases found
  · obtain rfl : c'' = c' := Outcome.goOn.inj (moved'.symm.trans moved)
    exact ⟨m, rest⟩

theorem iterate_of_runs {n : Nat} (found : step t z firstYear c = .runs u) (enough : 0 < n) :
    iterate t z firstYear n c = .runs u := by
  cases n with
  | zero => omega
  | succ n => simp only [iterate, found]

theorem iterate_of_goOn {n : Nat} (moved : step t z firstYear c = .goOn c')
    (h : iterate t z firstYear n c' = .runs u) : iterate t z firstYear (n + 1) c = .runs u := by
  simp only [iterate, moved, h]

/-- A step that does not give up does the same in a search that started in a later year. -/
theorem step_of_le {firstYear' : Int} (le : firstYear ≤ firstYear')
    (some : step t z firstYear c ≠ .giveUp) : step t z firstYear' c = step t z firstYear c := by
  unfold step at *
  split at some
  · exact absurd rfl some
  · rw [if_neg (by omega), if_neg ‹_›]

/-- A run is found in a later year, too, and with more steps. -/
theorem iterate_mono {firstYear' : Int} {n m : Nat} (h : iterate t z firstYear n c = .runs u)
    (year : firstYear ≤ firstYear') (le : n ≤ m) : iterate t z firstYear' m c = .runs u := by
  induction n generalizing c m with
  | zero => cases h
  | succ n ih =>
    obtain ⟨m, rfl⟩ : ∃ k, m = k + 1 := ⟨m - 1, by omega⟩
    simp only [iterate] at h ⊢
    cases moved : step t z firstYear c with
    | goOn c' =>
      rw [step_of_le year (by rw [moved]; nofun), moved]
      rw [moved] at h
      exact ih h (Nat.le_of_succ_le_succ le)
    | runs v =>
      rw [step_of_le year (by rw [moved]; nofun), moved]
      rw [moved] at h
      exact h
    | giveUp =>
      rw [moved] at h
      cases h

/-- Whatever year and number of steps it starts with, a search finds the same run from a candidate. -/
theorem iterate_unique {firstYear' : Int} {v : Instant} {n m : Nat}
    (h : iterate t z firstYear n c = .runs u) (h' : iterate t z firstYear' m c = .runs v) : u = v := by
  have later : iterate t z (max firstYear firstYear') (max n m) c = .runs u :=
    iterate_mono h (Int.le_max_left _ _) (Nat.le_max_left n m)
  have later' : iterate t z (max firstYear firstYear') (max n m) c = .runs v :=
    iterate_mono h' (Int.le_max_right _ _) (Nat.le_max_right n m)
  exact Outcome.runs.inj (later.symm.trans later')

theorem run_eq_some {start : Instant} :
    run? t z start = some u ↔
      iterate t z (z.wallAt start).date.year stepLimit ⟨start, true⟩ = .runs u := by
  unfold run? outcome
  split
  · rename_i found h
    rw [h, Option.some_inj, Outcome.runs.injEq]
  · rename_i h
    simp only [reduceCtorEq, false_iff]
    exact h u

end CronCalendar.Search
