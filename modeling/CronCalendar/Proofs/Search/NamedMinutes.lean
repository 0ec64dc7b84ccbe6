import CronCalendar.Proofs.Search.EveryDay

/-!
# The first named minute

Over a stretch of time without a change of the clock, the search of a schedule that runs every day passes no
named minute: the look at the minutes finds the first one or goes on in front of it (`minuteStep_first`),
and the next named hour comes before it (`exists_nextHour_on`), unless the jump goes back to an hour that the
clock has shown before the stretch (`SetBack`). So the search ends at the first named minute, or is set back
to an earlier reading of its hour (`iterate_first`, by induction on the steps).
-/

namespace CronCalendar.Search
set_option autoImplicit false

variable {t : Timetable} {z : Zone} {firstYear : Int} {c c' : Candidate} {b u : Instant}
  {w next : WallTime} {lo hi : Int}

/-- The second from which on a candidate may find a run. -/
def Candidate.openFrom (z : Zone) (c : Candidate) : Int :=
  z.minuteStart c.instant + if c.untouched then 60 else 0

theorem Candidate.openFrom_bounds (z : Zone) (c : Candidate) :
    z.minuteStart c.instant ≤ c.openFrom z ∧ c.openFrom z ≤ z.minuteStart c.instant + 60 := by
  unfold openFrom
  split <;> omega

theorem Candidate.openFrom_moved (z : Zone) (u : Instant) :
    Candidate.openFrom z ⟨u, false⟩ = z.minuteStart u := Int.add_zero _

/-- The first named minute from a second on. -/
structure FirstFrom (t : Timetable) (z : Zone) (e : Int) (u : Instant) : Prop where
  nanos : u.nanos = 0
  named : t.names (z.wallAt u) = true
  ahead : e ≤ u.seconds
  first : ∀ m : Instant, e ≤ m.seconds → m.seconds < u.seconds → t.names (z.wallAt m) = false

theorem FirstFrom.le_of_named {e : Int} {v : Instant} (h : FirstFrom t z e u) (ahead : e ≤ v.seconds)
    (named : t.names (z.wallAt v) = true) : u.seconds ≤ v.seconds := by
  apply Int.not_lt.1
  intro before
  rw [h.first v ahead before] at named
  cases named

theorem FirstFrom.unique {e : Int} {v : Instant} (h : FirstFrom t z e u) (h' : FirstFrom t z e v) :
    u = v :=
  Instant.eq_of_parts
    (Int.le_antisymm (h.le_of_named h'.ahead h'.named) (h'.le_of_named h.ahead h.named))
    (h.nanos.trans h'.nanos.symm)

theorem firstFrom_iff {s : Schedule} {e : Int} (nanos : u.nanos = 0) (ahead : e ≤ u.seconds) :
    FirstFrom s.timetable z e u ↔
      s.matchesAt z u = true ∧ ∀ m : Instant, e ≤ m.seconds → m < u → s.matchesAt z m = false := by
  constructor
  · intro h
    refine ⟨h.named, ?_⟩
    intro m from_le lt
    rw [Instant.lt_iff] at lt
    exact h.first m from_le (by omega)
  · rintro ⟨named, first⟩
    refine ⟨nanos, named, ahead, ?_⟩
    intro m from_le lt
    exact first m from_le (Instant.lt_iff.2 (Or.inl lt))

/-- Where no minute is named up to a second, the first one is the first from there. -/
theorem FirstFrom.of_passed {e e' : Int} (h : FirstFrom t z e' u) (le : e ≤ e')
    (passed : ∀ m : Instant, e ≤ m.seconds → m.seconds < e' → t.names (z.wallAt m) = false) :
    FirstFrom t z e u where
  nanos := h.nanos
  named := h.named
  ahead := Int.le_trans le h.ahead
  first m from_le lt := by
    by_cases before : m.seconds < e'
    · exact passed m from_le before
    · exact h.first m (Int.not_lt.1 before) lt

/-- A candidate may be moved on to the start of a minute, up to a named one: it passes no other. -/
structure Passes (t : Timetable) (z : Zone) (c : Candidate) (v u : Instant) : Prop where
  moves : c.instant.seconds < u.seconds
  ahead : c.openFrom z ≤ u.seconds
  reached : u.seconds ≤ v.seconds
  minute : z.minuteStart u = u.seconds
  unnamed : ∀ m : Instant, c.openFrom z ≤ m.seconds → m.seconds < u.seconds →
    t.names (z.wallAt m) = false

/-- A search that ends behind the stretch: it has jumped to the first named minute `v`, and its hour has
been shown before. -/
structure SetBack (t : Timetable) (z : Zone) (lo : Int) (v u : Instant) : Prop where
  before : u.seconds < lo
  shown : ∃ q, q < lo ∧ q + z.offsetAt q = (z.wallAt v).count - 60 * (t.minutes.nextFrom 0 : Int)

/-- A search ends at the first named minute that its candidate may find, or is set back from there. -/
def EndsFirst (t : Timetable) (z : Zone) (firstYear lo : Int) (n : Nat) (c : Candidate) : Prop :=
  ∃ f u, FirstFrom t z (c.openFrom z) f ∧ iterate t z firstYear n c = .runs u ∧
    (u = f ∨ SetBack t z lo f u)

/-- Where a search ends does not change with a step that passes no named minute. -/
theorem EndsFirst.of_step {v : Instant} {n : Nat} (h : EndsFirst t z firstYear lo n ⟨u, false⟩)
    (moved : step t z firstYear c = .goOn ⟨u, false⟩) (passes : Passes t z c v u) :
    EndsFirst t z firstYear lo (n + 1) c := by
  obtain ⟨f, w, first, run, place⟩ := h
  rw [(Candidate.openFrom_moved z u).trans passes.minute] at first
  exact ⟨f, w, first.of_passed passes.ahead passes.unnamed, iterate_of_goOn moved run, place⟩

section
variable (proper : t.Proper) (everyDay : ∀ n, t.namesDate n = true) (stretch : z.Stretch lo hi)

include everyDay in
theorem names_everyDay {w : WallTime} : t.names w = true ↔ w.hour ∈ t.hours ∧ w.minute ∈ t.minutes := by
  rw [Timetable.names_iff, and_iff_right (everyDay _)]

include proper everyDay in
/-- The first named minute of a full hour that is named. -/
theorem names_of_fullHour {v w : WallTime} (full : w.count % 3600 = 0) (hour : w.hour ∈ t.hours)
    (place : v.count = w.count + 60 * (t.minutes.nextFrom 0 : Int)) : t.names v = true := by
  have member := Values.nextFrom_mem proper.minutes 0
  have minute_lt := proper.minute_lt _ member
  have minute := v.minute_eq
  have minute_eq : v.minute = t.minutes.nextFrom 0 := by omega
  rw [names_everyDay everyDay, minute_eq, (WallTime.sameHour (v := v) (w := w) (by omega)).2]
  exact ⟨hour, member⟩

include stretch in
theorem minuteStart_on {u : Instant} (from_le : lo ≤ u.seconds) (le : u.seconds ≤ hi)
    (minute : (u.seconds + z.offsetAt lo) % 60 = 0) : z.minuteStart u = u.seconds := by
  have second := (z.wallAt u).second_eq
  have count := stretch.wallAt_eq from_le le
  unfold Zone.minuteStart
  omega

include stretch in
/-- The readings in the rest of an hour of the stretch. -/
theorem reading_on {m : Instant} (from_le : lo ≤ z.minuteStart c.instant)
    (reach : c.instant.seconds ≤ hi) (behind : z.minuteStart c.instant ≤ m.seconds) (le : m.seconds ≤ hi)
    (before : m.seconds <
      z.minuteStart c.instant + 60 * (60 - (z.wallAt c.instant).minute : Int)) :
    (z.wallAt m).hour = (z.wallAt c.instant).hour ∧
      ((z.wallAt m).minute : Int) =
        (z.wallAt c.instant).minute + (m.seconds - z.minuteStart c.instant) / 60 := by
  have place : z.minuteStart c.instant = c.instant.seconds - (z.wallAt c.instant).second := rfl
  have count := stretch.wallAt_eq (v := c.instant) (by omega) reach
  have count' := stretch.wallAt_eq (v := m) (by omega) le
  have second := (z.wallAt c.instant).second_eq
  have minute := (z.wallAt c.instant).minute_eq
  have minute' := (z.wallAt m).minute_eq
  exact ⟨(WallTime.sameHour (by omega)).2, by omega⟩

include everyDay stretch in
/-- As many minutes as no member of the timetable falls into are passed without a named one. -/
theorem unnamed_on {v : Instant} (named : t.names (z.wallAt v) = true)
    (from_le : lo ≤ z.minuteStart c.instant) (reach : c.instant.seconds ≤ hi)
    (behind : z.minuteStart c.instant ≤ v.seconds) (inside : v.seconds ≤ hi) (k : Nat)
    (le : (z.wallAt c.instant).minute + k ≤ 60)
    (none : ∀ i ∈ t.minutes, (z.wallAt c.instant).minute ≤ i → (z.wallAt c.instant).minute + k ≤ i) :
    z.minuteStart c.instant + 60 * (k : Int) ≤ v.seconds ∧
      ∀ m : Instant, z.minuteStart c.instant ≤ m.seconds →
        m.seconds < z.minuteStart c.instant + 60 * (k : Int) → t.names (z.wallAt m) = false := by
  have unnamed : ∀ m : Instant, z.minuteStart c.instant ≤ m.seconds → m.seconds ≤ hi →
      m.seconds < z.minuteStart c.instant + 60 * (k : Int) → t.names (z.wallAt m) = false := by
    intro m from_start within before
    obtain ⟨-, minute⟩ := reading_on stretch from_le reach from_start within (by omega)
    apply Bool.eq_false_iff.2
    intro named'
    have := none _ ((names_everyDay everyDay).1 named').2 (by omega)
    omega
  have reached : z.minuteStart c.instant + 60 * (k : Int) ≤ v.seconds := by
    apply Int.not_lt.1
    intro before
    rw [unnamed v behind inside before] at named
    cases named
  exact ⟨reached, fun m from_start before => unnamed m from_start (by omega) before⟩

include everyDay stretch in
/-- The next hour that is named is shown before every named minute behind the candidate, and none is
passed up to it. -/
theorem exists_nextHour_on {v : Instant} (named : t.names (z.wallAt v) = true)
    (from_le : lo ≤ z.minuteStart c.instant) (reach : c.instant.seconds ≤ hi)
    (ahead : c.openFrom z ≤ v.seconds) (inside : v.seconds ≤ hi)
    (jump : NextHour t (z.wallAt c.instant) next) :
    ∃ y : Instant, y.nanos = 0 ∧ z.wallAt y = next ∧ Passes t z c v y := by
  have bounds := minuteStart_bounds z c.instant
  have open_le := c.openFrom_bounds z
  have place : z.minuteStart c.instant = c.instant.seconds - (z.wallAt c.instant).second := rfl
  have count := stretch.wallAt_eq (v := c.instant) (by omega) reach
  have count_v := stretch.wallAt_eq (v := v) (by omega) inside
  have second := (z.wallAt c.instant).second_eq
  have full := jump.full
  have later := jump.ahead
  have unnamed : ∀ m : Instant, c.openFrom z ≤ m.seconds → m.seconds ≤ hi →
      m.seconds + z.offsetAt lo < next.count → t.names (z.wallAt m) = false := by
    intro m from_open le before
    have count' := stretch.wallAt_eq (v := m) (by omega) le
    apply Bool.eq_false_iff.2
    intro named'
    have hour := ((names_everyDay everyDay).1 named').1
    by_cases behind : (z.wallAt c.instant).count ≤ (z.wallAt m).count
    · exact jump.first _ behind (by omega) hour
    · -- The rest is the part of its own minute that the candidate has passed.
      rw [(WallTime.sameHour (v := z.wallAt m) (w := z.wallAt c.instant) (by omega)).2] at hour
      exact jump.first _ (Int.le_refl _) later hour
  have reached : next.count ≤ v.seconds + z.offsetAt lo := by
    apply Int.not_lt.1
    intro before
    rw [unnamed v ahead inside before] at named
    cases named
  have floor := c.instant.firstSecond_le
  have last := v.le_lastSecond
  obtain ⟨y, seconds, nanos⟩ := @Instant.exists_at (next.count - z.offsetAt lo) (by omega) (by omega)
  have count_y := stretch.wallAt_eq (v := y) (by omega) (by omega)
  refine ⟨y, nanos, WallTime.eq_of_count (by omega), by omega, by omega, by omega, ?_, ?_⟩
  · exact minuteStart_on stretch (by omega) (by omega) (by omega)
  · intro m from_open before
    exact unnamed m from_open (by omega) (by omega)

include proper everyDay stretch

/-- From an hour that is named, the look at the minutes finds the first named one, or goes on in front of
it. -/
theorem minuteStep_first {v : Instant} (named : t.names (z.wallAt v) = true)
    (floor : firstSecond ≤ lo) (from_le : lo ≤ z.minuteStart c.instant)
    (reach : c.instant.seconds ≤ hi) (ahead : c.openFrom z ≤ v.seconds) (inside : v.seconds ≤ hi)
    (hour : (z.wallAt c.instant).hour ∈ t.hours) :
    (∃ u, minuteStep t z c = .runs u ∧ FirstFrom t z (c.openFrom z) u) ∨
      ∃ u, minuteStep t z c = .goOn ⟨u, false⟩ ∧ Passes t z c v u := by
  have bounds := minuteStart_bounds z c.instant
  have open_eq : c.openFrom z = z.minuteStart c.instant + if c.untouched then 60 else 0 := rfl
  have open_le := c.openFrom_bounds z
  have place : z.minuteStart c.instant = c.instant.seconds - (z.wallAt c.instant).second := rfl
  have count := stretch.wallAt_eq (v := c.instant) (by omega) reach
  have second := (z.wallAt c.instant).second_eq
  have minute_lt := (z.wallAt c.instant).minute_lt
  have last := v.le_lastSecond
  have member := Values.nextFrom_mem proper.minutes (z.wallAt c.instant).minute
  have next_lt := proper.minute_lt _ member
  have passed := unnamed_on everyDay stretch named from_le reach (by omega) inside
  obtain ⟨start, start_eq⟩ := @Instant.exists_ofSeconds (z.minuteStart c.instant) (by omega) (by omega)
  obtain ⟨seconds, nanos, start_minute⟩ := startOfMinute_on stretch from_le reach start_eq
  have exists_moved : ∀ k : Nat, z.minuteStart c.instant + 60 * (k : Int) ≤ v.seconds →
      ∃ u, addMinutes? start k = some u ∧ u.seconds = z.minuteStart c.instant + 60 * (k : Int) ∧
        u.nanos = 0 := by
    intro k le
    obtain ⟨u, seconds_u, nanos_u⟩ := @Instant.exists_at (z.minuteStart c.instant + 60 * (k : Int))
      (by omega) (by omega)
    exact ⟨u, addMinutes_eq_some.2 ⟨by omega, nanos_u.trans nanos.symm⟩, seconds_u, nanos_u⟩
  rw [minuteStep_eq start_eq, start_minute]
  split
  · rename_i first
    rw [if_pos first.2] at open_eq
    obtain ⟨u, moved, seconds_u, -⟩ := exists_moved 1 (by omega)
    right
    refine ⟨u, by rw [moved]; rfl, by omega, by omega, by omega, ?_, ?_⟩
    · exact minuteStart_on stretch (by omega) (by omega) (by omega)
    · intro m from_open before
      omega
  · rename_i untouched
    split
    · rename_i wraps
      obtain ⟨reached, unnamed⟩ := passed (60 - (z.wallAt c.instant).minute) (by omega)
        fun i member le =>
          absurd member (Values.not_mem_of_nextFrom_lt proper.minutes wraps (Or.inl le))
      obtain ⟨u, moved, seconds_u, -⟩ := exists_moved _ reached
      right
      refine ⟨u, by rw [moved]; rfl, by omega, by omega, by omega, ?_, ?_⟩
      · exact minuteStart_on stretch (by omega) (by omega) (by omega)
      · intro m from_open before
        exact unnamed m (by omega) (by omega)
    · rename_i ahead'
      obtain ⟨reached, unnamed⟩ := passed
        (t.minutes.nextFrom (z.wallAt c.instant).minute - (z.wallAt c.instant).minute) (by omega)
        fun i member le => Nat.le_of_not_lt fun lt =>
          Values.not_mem_of_lt_nextFrom proper.minutes le (by omega) member
      obtain ⟨u, moved, seconds_u, nanos_u⟩ := exists_moved _ reached
      have later : c.openFrom z ≤ u.seconds := by
        rw [open_eq]
        split
        · rename_i first
          have : t.minutes.nextFrom (z.wallAt c.instant).minute ≠ (z.wallAt c.instant).minute :=
            fun same => untouched ⟨same, first⟩
          omega
        · omega
      obtain ⟨hour', minute'⟩ := reading_on (m := u) stretch from_le reach (by omega) (by omega) (by omega)
      have found : (z.wallAt u).minute = t.minutes.nextFrom (z.wallAt c.instant).minute := by omega
      left
      refine ⟨u, by rw [moved], nanos_u, ?_, later, ?_⟩
      · rw [names_everyDay everyDay, hour', found]
        exact ⟨hour, member⟩
      · intro m from_open before
        exact unnamed m (by omega) (by omega)

/-- In a full hour that is named, the first named minute comes before any other. -/
theorem exists_first_on {y v : Instant} (from_le : lo ≤ y.seconds)
    (full : (z.wallAt y).count % 3600 = 0) (hour : (z.wallAt y).hour ∈ t.hours)
    (named : t.names (z.wallAt v) = true) (ahead : y.seconds ≤ v.seconds) (inside : v.seconds ≤ hi) :
    ∃ f : Instant, FirstFrom t z y.seconds f ∧
      f.seconds = y.seconds + 60 * (t.minutes.nextFrom 0 : Int) ∧ f.seconds ≤ v.seconds := by
  have member := Values.nextFrom_mem proper.minutes 0
  have next_lt := proper.minute_lt _ member
  have count := stretch.wallAt_eq (v := y) from_le (by omega)
  have start := minuteStart_on stretch from_le (by omega) (by omega)
  have minute := (z.wallAt y).minute_eq
  have minute_zero : (z.wallAt y).minute = 0 := by omega
  have floor := y.firstSecond_le
  have last := v.le_lastSecond
  obtain ⟨reached, unnamed⟩ := unnamed_on (c := ⟨y, false⟩) everyDay stretch named
    (by simp only; omega) (by simp only; omega) (by simp only; omega) inside (t.minutes.nextFrom 0)
    (by simp only; omega) fun i member _ => by
      have := Nat.le_of_not_lt fun lt =>
        Values.not_mem_of_lt_nextFrom proper.minutes (Nat.zero_le i) lt member
      simp only
      omega
  simp only [start] at reached unnamed
  obtain ⟨f, seconds, nanos⟩ := @Instant.exists_at (y.seconds + 60 * (t.minutes.nextFrom 0 : Int))
    (by omega) (by omega)
  have count' := stretch.wallAt_eq (v := f) (by omega) (by omega)
  refine ⟨f, ⟨nanos, ?_, by omega, ?_⟩, seconds, by omega⟩
  · exact names_of_fullHour proper everyDay full hour (by omega)
  · intro m from_y before
    exact unnamed m from_y (by omega)

/-- Where the next named hour has been shown before the stretch, the search is set back to it. -/
theorem endsFirst_of_setback {v y earlier : Instant} {n : Nat} (named : t.names (z.wallAt v) = true)
    (inside : v.seconds ≤ hi) (from_le : lo ≤ y.seconds) (passes : Passes t z c v y)
    (full : (z.wallAt y).count % 3600 = 0) (hour : (z.wallAt y).hour ∈ t.hours)
    (within : (z.wallAt y).date.year ≤ firstYear + yearLimit)
    (moved : step t z firstYear c = .goOn ⟨earlier, false⟩) (nanos : earlier.nanos = 0)
    (same : z.wallAt earlier = z.wallAt y) (back : earlier.seconds + 3600 ≤ lo) :
    EndsFirst t z firstYear lo (n + 2) c := by
  have reached := passes.reached
  have last := v.le_lastSecond
  have next_lt := proper.minute_lt _ (Values.nextFrom_mem proper.minutes 0)
  obtain ⟨f, first, seconds_f, le_f⟩ :=
    exists_first_on proper everyDay stretch from_le full hour named reached inside
  have count_y := stretch.wallAt_eq from_le (by omega)
  have count_f := stretch.wallAt_eq (v := f) (by omega) (by omega)
  have count : (z.wallAt earlier).count = earlier.seconds + z.offsetAt earlier.seconds := rfl
  rw [same] at count
  rw [← same] at full hour within
  obtain ⟨u, run, seconds⟩ := iterate_of_fullHour (n := n + 1) proper everyDay nanos full hour within
    (by omega) (Nat.succ_pos n)
  refine ⟨f, u, first.of_passed passes.ahead passes.unnamed, iterate_of_goOn moved run,
    Or.inr ⟨by omega, ?_⟩⟩
  exact ⟨earlier.seconds, by omega, by omega⟩

/-- On a stretch with a named minute ahead, a search ends at the first one, or is set back to an
earlier reading of its hour. -/
theorem iterate_first {v : Instant} (named : t.names (z.wallAt v) = true) (floor : firstSecond ≤ lo)
    (years : ∀ w : WallTime, lo + z.offsetAt lo ≤ w.count → w.count ≤ hi + z.offsetAt lo →
      w.isSupported = true)
    (year : (z.wallAt v).date.year ≤ firstYear + yearLimit) (inside : v.seconds ≤ hi) {n : Nat}
    (from_le : lo ≤ z.minuteStart c.instant) (reach : c.instant.seconds ≤ hi)
    (ahead : c.openFrom z ≤ v.seconds) (near : v.seconds < z.minuteStart c.instant + n) :
    EndsFirst t z firstYear lo (n + 1) c := by
  have early : ∀ w : WallTime, w.count / 60 ≤ (z.wallAt v).count / 60 →
      w.date.year ≤ firstYear + yearLimit := by
    intro w le
    apply Int.le_trans (WallTime.year_mono _) year
    unfold WallTime.dayNumber secondsPerDay
    omega
  induction n generalizing c with
  | zero =>
    have := c.openFrom_bounds z
    omega
  | succ n ih =>
    have bounds := minuteStart_bounds z c.instant
    have open_le := c.openFrom_bounds z
    have count_v := stretch.wallAt_eq (v := v) (by omega) inside
    have within : (z.wallAt c.instant).date.year ≤ firstYear + yearLimit := by
      have place : z.minuteStart c.instant = c.instant.seconds - (z.wallAt c.instant).second := rfl
      have count := stretch.wallAt_eq (v := c.instant) (by omega) reach
      have second := (z.wallAt c.instant).second_eq
      exact early _ (by omega)
    have move : ∀ u, step t z firstYear c = .goOn ⟨u, false⟩ → Passes t z c v u →
        EndsFirst t z firstYear lo (n + 1 + 1) c := by
      intro u moved passes
      have moves := passes.moves
      have reached := passes.reached
      have minute := passes.minute
      have start := (Candidate.openFrom_moved z u).trans minute
      exact (ih (c := ⟨u, false⟩) (by simp only; omega) (by simp only; omega) (by omega)
        (by simp only; omega)).of_step moved passes
    rcases aim_everyDay proper everyDay (z.wallAt c.instant) with ⟨hour, fits⟩ | ⟨next, jump, aim⟩
    · have look := step_of_fits (c := c) proper within fits
      rcases minuteStep_first proper everyDay stretch named floor from_le reach ahead inside hour with
        ⟨u, found, first⟩ | ⟨u, moved, passes⟩
      · exact ⟨u, u, first, iterate_of_runs (look.trans found) (Nat.succ_pos _), Or.inl rfl⟩
      · exact move u (look.trans moved) passes
    · obtain ⟨y, nanos, wall, passes⟩ :=
        exists_nextHour_on everyDay stretch named from_le reach ahead inside jump
      have moves := passes.moves
      have reached := passes.reached
      have full := jump.full
      have count_y := stretch.wallAt_eq (v := y) (by omega) (by omega)
      rw [wall] at count_y
      obtain ⟨u, shown, nanos_u, wall_u, place⟩ :=
        stretch.resolve (u := y) full (by omega) (by omega) count_y.symm
      have moved : step t z firstYear c = .goOn ⟨u, false⟩ := by
        rw [step_of_aim (c := c) proper within aim]
        exact pursue_shown full (years next (by omega) (by omega)) shown
      rcases place with same | back
      · obtain rfl : u = y := Instant.eq_of_parts same (nanos_u.trans nanos.symm)
        exact move u moved passes
      · apply endsFirst_of_setback proper everyDay stretch named inside (by omega) passes _ _ _ moved
          nanos_u (wall_u.trans wall.symm) back
        · rw [wall]
          exact full
        · rw [wall]
          exact jump.named
        · rw [wall]
          exact early next (by omega)

end

end CronCalendar.Search
