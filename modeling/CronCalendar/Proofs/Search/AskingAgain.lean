import CronCalendar.Proofs.Search.NamedMinutes

/-!
# Asking again

A run that has been announced is announced again to whoever asks later, as long as the clock is not
changed in between. Across a change, the later search starts on the other side: the earlier one may have come
to the change and gone on from there, or have jumped over it (`crossing`), and only a run that is the
first named minute behind the later start is sure to be found again. `nextRun_again_iff` puts the two
together.
-/

namespace CronCalendar.Search
set_option autoImplicit false

variable {t : Timetable} {z : Zone} {firstYear : Int} {c : Candidate} {b u : Instant} {lo hi : Int}

section
variable (proper : t.Proper) (everyDay : ∀ n, t.namesDate n = true)
include proper everyDay

/-- Within a day there is a named minute. -/
theorem exists_named_on (stretch : z.Stretch lo hi) {e : Int} (from_le : lo ≤ e)
    (inside : e + 86400 ≤ hi) (floor : firstSecond ≤ lo) (ceiling : hi ≤ lastSecond) :
    ∃ v : Instant, t.names (z.wallAt v) = true ∧ e ≤ v.seconds ∧ v.seconds < e + 86400 := by
  have hour := Values.nextFrom_mem proper.hours 0
  have minute := Values.nextFrom_mem proper.minutes 0
  have hour_lt := proper.hour_lt _ hour
  have minute_lt := proper.minute_lt _ minute
  obtain ⟨reading, at_reading⟩ : ∃ r : Int,
      r = 3600 * (t.hours.nextFrom 0 : Int) + 60 * (t.minutes.nextFrom 0 : Int) := ⟨_, rfl⟩
  obtain ⟨v, seconds, -⟩ := @Instant.exists_at (e + (reading - (e + z.offsetAt lo)) % 86400)
    (by omega) (by omega)
  have count := stretch.wallAt_eq (v := v) (by omega) (by omega)
  have shown := (z.wallAt v).count_eq
  have hour_lt' := (z.wallAt v).hour_lt
  have minute_lt' := (z.wallAt v).minute_lt
  have second_lt' := (z.wallAt v).second_lt
  have hour_eq : (z.wallAt v).hour = t.hours.nextFrom 0 := by omega
  have minute_eq : (z.wallAt v).minute = t.minutes.nextFrom 0 := by omega
  refine ⟨v, ?_, by omega, by omega⟩
  rw [names_everyDay everyDay, hour_eq, minute_eq]
  exact ⟨hour, minute⟩

variable (rare : z.RarelyChanged) (settled : z.Settled) {x : Transition} (member : x ∈ z.transitions)
  (full : z.ChangesAtFullHour x)
include rare settled member full

/-- Behind a change with a named minute ahead, the search ends at the first one, or is set back. -/
theorem iterate_behind {v : Instant} (from_le : x.since ≤ z.minuteStart c.instant)
    (reach : c.instant.seconds ≤ x.since + 172800) (named : t.names (z.wallAt v) = true)
    (ahead : c.openFrom z ≤ v.seconds) (inside : v.seconds ≤ x.since + 172800)
    (year : (z.wallAt v).date.year ≤ firstYear + yearLimit) :
    EndsFirst t z firstYear x.since stepLimit c := by
  have early := settled x member
  have bounds := Zone.offsetAt_bounds rare x.since
  have last : never.seconds + 86400 ≤ lastSecond := by decide
  have enough : 172800 < ((stepLimit - 1 : Nat) : Int) := by decide
  apply iterate_first (n := stepLimit - 1) proper everyDay
    (Zone.stretch_of_transition rare settled member full) named (by omega) _ year inside from_le reach
    ahead (by omega)
  intro w from_le' le
  rw [WallTime.isSupported_iff]
  omega

/-- Behind a change with a named minute ahead, a run is the first named minute, or one that a search
is set back to. -/
theorem run_behind_change {v : Instant} {n : Nat} (from_le : x.since ≤ z.minuteStart c.instant)
    (reach : c.instant.seconds ≤ x.since + 172800) (named : t.names (z.wallAt v) = true)
    (ahead : c.openFrom z ≤ v.seconds) (inside : v.seconds ≤ x.since + 172800)
    (h : iterate t z firstYear n c = .runs u) :
    ∃ f, FirstFrom t z (c.openFrom z) f ∧ (u = f ∨ SetBack t z x.since f u) := by
  have year : (z.wallAt v).date.year ≤ (z.wallAt v).date.year + yearLimit :=
    le_yearLimit (Int.le_add_one (Int.le_refl _))
  obtain ⟨f, u', first, found, place⟩ :=
    iterate_behind proper everyDay rare settled member full from_le reach named ahead inside year
  obtain rfl := iterate_unique h found
  exact ⟨f, first, place⟩

/-- From a minute within a day behind a change, a run that is not set back is named, and comes within
a day. -/
theorem near_of_run {v : Instant} {n : Nat} (minute : z.minuteStart v = v.seconds)
    (from_le : x.since ≤ v.seconds) (near : v.seconds ≤ x.since + 86400) (behind : x.since ≤ u.seconds)
    (h : iterate t z firstYear n ⟨v, false⟩ = .runs u) :
    t.names (z.wallAt u) = true ∧ u.seconds < v.seconds + 86400 := by
  have early := settled x member
  have last : never.seconds ≤ lastSecond := by decide
  have start := (Candidate.openFrom_moved z v).trans minute
  obtain ⟨m, named, ahead, soon⟩ := exists_named_on proper everyDay
    (Zone.stretch_of_transition rare settled member full) from_le (by omega) (by omega) (by omega)
  obtain ⟨f, first, rfl | back⟩ := run_behind_change (c := ⟨v, false⟩) proper everyDay rare settled
    member full (by simp only; omega) (by simp only; omega) named (by omega) (by omega) h
  · have := first.le_of_named (v := m) (by omega) named
    exact ⟨first.named, by omega⟩
  · have := back.before
    omega

omit settled in
/-- From the last minute before a change, if its hour is named, the search comes to the change. -/
theorem crossing_of_fits {n : Nat} (last : x.since ≤ b.seconds + 60) (before : b.seconds < x.since)
    (hour : (z.wallAt b).hour ∈ t.hours) (h : iterate t z firstYear n ⟨b, true⟩ = .runs u) :
    ∃ v m, v.seconds = x.since ∧ iterate t z firstYear m ⟨v, false⟩ = .runs u := by
  have look := step_of_fits (c := ⟨b, true⟩) proper (within_of_iterate h)
    ((aim_eq_none_iff proper).2 ⟨everyDay _, hour⟩)
  have old := full.before
  have second := (z.wallAt b).second_eq
  have count := Zone.count_before rare member before (by omega)
  have reading : ∀ start, startOfMinute? z b = some start →
      start.seconds = x.since - 60 ∧ (z.wallAt start).minute = 59 := by
    intro start found
    have seconds := (startOfMinute_eq_some.1 found).1
    have minute := (z.wallAt start).minute_eq
    have count' := Zone.count_before rare member (v := start) (by omega) (by omega)
    omega
  rcases iterate_runs_cases h with found | ⟨c', m, moved, rest⟩
  · obtain ⟨start, start_eq, -, first, -⟩ := minuteStep_runs (look.symm.trans found)
    obtain ⟨-, minute⟩ := reading start start_eq
    have := first rfl
    have := proper.minute_lt _ (Values.nextFrom_mem proper.minutes (z.wallAt start).minute)
    omega
  · obtain ⟨touched, start, start_eq, next⟩ := minuteStep_goOn (look.symm.trans moved)
    obtain ⟨seconds, minute⟩ := reading start start_eq
    obtain ⟨v, untouched⟩ := c'
    obtain rfl : untouched = false := touched
    refine ⟨v, m, ?_, rest⟩
    rcases next with ⟨-, -, next⟩ | ⟨-, next⟩
    · have := (addMinutes_eq_some.1 next).1
      simp only at this
      omega
    · have := (addMinutes_eq_some.1 next).1
      simp only at this
      omega

/-- From the last minute before a change, the search may jump over it to an hour that the clock
shows: it finds its run there, and the hour has not been shown before. -/
theorem crossing_shown {n : Nat} {next : WallTime} (last : x.since ≤ b.seconds + 60)
    (before : b.seconds < x.since) (jump : NextHour t (z.wallAt b) next)
    (reached : x.since + z.offsetAt x.since ≤ next.count)
    (h : iterate t z firstYear n ⟨b, true⟩ = .runs u) :
    t.names (z.wallAt u) = true ∧ u.seconds < x.since + 172800 ∧ ∀ r, ¬ SetBack t z x.since u r := by
  have stretch := Zone.stretch_of_transition rare settled member full
  have early := settled x member
  have bounds := Zone.offsetAt_bounds rare x.since
  have ceiling : never.seconds + 86400 ≤ lastSecond := by decide
  have old := full.before
  have new := full.behind
  have setback := full.setback
  have hour := jump.full
  have later := jump.ahead
  have near := jump.near
  have next_lt := proper.minute_lt _ (Values.nextFrom_mem proper.minutes 0)
  have count := Zone.count_before rare member before (by omega)
  obtain ⟨y, at_y, -⟩ := @Instant.exists_at (next.count - z.offsetAt x.since) (by omega) (by omega)
  obtain ⟨v, shown, nanos, wall, place⟩ :=
    stretch.resolve (u := y) hour (by omega) (by omega) (by omega)
  have count_v : next.count = v.seconds + z.offsetAt v.seconds := by
    rw [← wall]
    rfl
  have behind : x.since ≤ v.seconds := by
    apply Int.not_lt.1
    intro earlier
    have := Zone.reading_before rare member earlier
    omega
  have supported : next.isSupported = true := by
    rw [WallTime.isSupported_iff]
    omega
  have moved : step t z firstYear ⟨b, true⟩ = .goOn ⟨v, false⟩ := by
    rw [step_of_aim (c := ⟨b, true⟩) proper (within_of_iterate h)
      (aim_of_nextHour proper everyDay jump)]
    exact pursue_shown hour supported shown
  obtain ⟨m, rest⟩ := iterate_of_step moved h
  obtain ⟨at_u, -⟩ := run_of_fullHour proper everyDay nanos (by rw [wall]; exact hour)
    (by rw [wall]; exact jump.named) rest
  have count_u := stretch.wallAt_eq (v := u) (by omega) (by omega)
  refine ⟨?_, by omega, ?_⟩
  · apply names_of_fullHour proper everyDay hour jump.named
    omega
  · intro r back
    obtain ⟨q, earlier, shows⟩ := back.shown
    have := Zone.reading_before rare member earlier
    omega

/-- Or it jumps to an hour that the change swallows, and goes on from as long behind the change. -/
theorem crossing_swallowed {n : Nat} {next : WallTime} (last : x.since ≤ b.seconds + 60)
    (before : b.seconds < x.since) (jump : NextHour t (z.wallAt b) next)
    (swallowed : next.count < x.since + z.offsetAt x.since) (behind : x.since ≤ u.seconds)
    (h : iterate t z firstYear n ⟨b, true⟩ = .runs u) :
    (u.seconds < x.since + 86400 ∨ t.names (z.wallAt u) = true ∧ u.seconds < x.since + 172800) ∧
      ∀ r, ¬ SetBack t z x.since u r := by
  have stretch := Zone.stretch_of_transition rare settled member full
  have early := settled x member
  have ceiling : never.seconds ≤ lastSecond := by decide
  have bounds := Zone.offsetAt_bounds rare (x.since - 1)
  have bounds' := Zone.offsetAt_bounds rare x.since
  have old := full.before
  have new := full.behind
  have hour := jump.full
  have later := jump.ahead
  have near := jump.near
  have minute_lt := proper.minute_lt _ (Values.nextFrom_mem proper.minutes 0)
  have count := Zone.count_before rare member before (by omega)
  obtain ⟨gap, v, resolved, nanos, at_v⟩ :=
    Zone.resolve_swallowed rare settled member (w := next) (by omega) swallowed
  have count_v := stretch.wallAt_eq (v := v) (by omega) (by omega)
  have minute := minuteStart_on stretch (u := v) (by omega) (by omega) (by omega)
  have full_v : (z.wallAt v).count % 3600 = 0 := by omega
  have supported : next.isSupported = true := by
    rw [WallTime.isSupported_iff]
    omega
  have moves := step_of_aim (c := ⟨b, true⟩) proper (within_of_iterate h)
    (aim_of_nextHour proper everyDay jump)
  rw [pursue_hour hour, if_pos supported, resolved] at moves
  simp only at moves
  constructor
  · split at moves
    · left
      rcases iterate_runs_cases h with found | ⟨c', m, moved, -⟩
      · have := ((minuteStep_fullHour_iff nanos full_v).1 (moves.symm.trans found)).1
        omega
      · exact absurd (moves.symm.trans moved) (minuteStep_fullHour_ne_goOn nanos full_v)
    · right
      obtain ⟨m, rest⟩ := iterate_of_step moves h
      obtain ⟨named, soon⟩ := near_of_run proper everyDay rare settled member full minute (by omega)
        (by omega) behind rest
      exact ⟨named, by omega⟩
  · intro r back
    obtain ⟨q, earlier, shows⟩ := back.shown
    have := Zone.reading_before rare member earlier
    have := Zone.reading_behind rare member behind
    have count_u : (z.wallAt u).count = u.seconds + z.offsetAt u.seconds := rfl
    omega

/-- Across a change, a run comes within two days, and within one if it is not named; and it is found by way
of the change, or its hour has not been shown before. -/
theorem crossing {n : Nat} (last : x.since ≤ b.seconds + 60) (before : b.seconds < x.since)
    (behind : x.since ≤ u.seconds) (h : iterate t z firstYear n ⟨b, true⟩ = .runs u) :
    (u.seconds < x.since + 86400 ∨ t.names (z.wallAt u) = true ∧ u.seconds < x.since + 172800) ∧
      ((∃ v m, v.seconds = x.since ∧ iterate t z firstYear m ⟨v, false⟩ = .runs u) ∨
        ∀ r, ¬ SetBack t z x.since u r) := by
  rcases aim_everyDay proper everyDay (z.wallAt b) with ⟨hour, -⟩ | ⟨next, jump, -⟩
  · obtain ⟨v, m, at_v, rest⟩ := crossing_of_fits proper everyDay rare member full last before hour h
    have stretch := Zone.stretch_of_transition rare settled member full
    have minute : z.minuteStart v = v.seconds := minuteStart_on stretch (by omega) (by omega)
      (by rw [at_v]; exact stretch.minute)
    have near := near_of_run proper everyDay rare settled member full minute (by omega) (by omega) behind
      rest
    exact ⟨Or.inl (by omega), Or.inl ⟨v, m, at_v, rest⟩⟩
  · by_cases reached : x.since + z.offsetAt x.since ≤ next.count
    · obtain ⟨named, soon, kept⟩ :=
        crossing_shown proper everyDay rare settled member full last before jump reached h
      exact ⟨Or.inr ⟨named, soon⟩, Or.inr kept⟩
    · obtain ⟨soon, kept⟩ := crossing_swallowed proper everyDay rare settled member full last before
        jump (Int.not_le.1 reached) behind h
      exact ⟨soon, Or.inr kept⟩

omit member full in
/-- As long as the clock is not changed, the search finds the same run again. -/
theorem run_again {a : Instant} (le : a.seconds ≤ b.seconds)
    (steady : ∀ x ∈ z.transitions, x.since ≤ a.seconds ∨ b.seconds < x.since)
    (full : ∀ x ∈ z.transitions, a.seconds ≤ x.since + 259200 → x.since ≤ a.seconds →
      z.ChangesAtFullHour x) (ahead : z.minuteStart b + 60 ≤ u.seconds)
    (found : run? t z a = some u) : run? t z b = some u := by
  have stretch := Zone.stretch_of_minute rare settled le steady full
  have bounds := minuteStart_bounds z a
  have count := stretch.wallAt_eq (v := a) (by omega) le
  have count' := stretch.wallAt_eq (v := b) (by omega) (Int.le_refl _)
  have year : (z.wallAt a).date.year ≤ (z.wallAt b).date.year := by
    apply WallTime.year_mono
    unfold WallTime.dayNumber secondsPerDay
    omega
  rw [run_eq_some] at found ⊢
  exact iterate_again proper everyDay stretch (Int.le_refl _) year ahead (Int.le_refl _) le found

omit member full in
/-- A run behind a change is found from the last minute before it, too. -/
theorem exists_last_minute {a : Instant} (member : x ∈ z.transitions)
    (after : a.seconds < x.since) (first : ∀ y ∈ z.transitions, y.since ≤ a.seconds ∨ x.since ≤ y.since)
    (full : ∀ y ∈ z.transitions, a.seconds ≤ y.since + 259200 → y.since ≤ a.seconds →
      z.ChangesAtFullHour y) (behind : x.since ≤ u.seconds)
    (found : run? t z a = some u) :
    ∃ b : Instant, x.since ≤ b.seconds + 60 ∧ b.seconds < x.since ∧ run? t z b = some u := by
  by_cases near : x.since ≤ a.seconds + 60
  · exact ⟨a, near, after, found⟩
  · have floor := a.firstSecond_le
    have early := settled x member
    have ceiling : never.seconds ≤ lastSecond := by decide
    obtain ⟨b, at_b, -⟩ := @Instant.exists_at (x.since - 60) (by omega) (by omega)
    have bounds := minuteStart_bounds z b
    refine ⟨b, by omega, by omega, ?_⟩
    apply run_again proper everyDay rare settled (a := a) (by omega) _ full (by omega) found
    intro y member'
    rcases first y member' with begun | later
    · exact Or.inl begun
    · exact Or.inr (by omega)

/-- Behind a change, a run that was found from before it is found again exactly if it is the first named
minute. -/
theorem run_again_iff_of_change {a : Instant} (last : x.since ≤ a.seconds + 60)
    (before : a.seconds < x.since) (behind : x.since ≤ b.seconds)
    (ahead : z.minuteStart b + 60 ≤ u.seconds) (found : run? t z a = some u) :
    run? t z b = some u ↔ FirstFrom t z (z.minuteStart b + 60) u := by
  have stretch := Zone.stretch_of_transition rare settled member full
  have bounds := minuteStart_bounds z b
  rw [run_eq_some] at found ⊢
  obtain ⟨soon, way⟩ := crossing proper everyDay rare settled member full last before (by omega) found
  have near : u.seconds < x.since + 172800 := by
    rcases soon with soon | ⟨-, soon⟩ <;> omega
  have from_le := stretch.le_minuteStart behind (by omega)
  have start : Candidate.openFrom z ⟨b, true⟩ = z.minuteStart b + 60 := rfl
  rw [← start]
  constructor
  · intro again
    obtain ⟨v, named, ahead', inside⟩ : ∃ v : Instant, t.names (z.wallAt v) = true ∧
        Candidate.openFrom z ⟨b, true⟩ ≤ v.seconds ∧ v.seconds ≤ x.since + 172800 := by
      rcases soon with soon | ⟨named, -⟩
      · have early := settled x member
        have ceiling : never.seconds ≤ lastSecond := by decide
        obtain ⟨v, named, from_le', lt⟩ := exists_named_on proper everyDay stretch
          (e := z.minuteStart b + 60) (by omega) (by omega) (by omega) (by omega)
        exact ⟨v, named, by omega, by omega⟩
      · exact ⟨u, named, by omega, by omega⟩
    obtain ⟨f, first, rfl | back⟩ := run_behind_change (c := ⟨b, true⟩) proper everyDay rare settled
      member full from_le (by simp only; omega) named ahead' inside again
    · exact first
    · have := back.before
      omega
  · intro first
    have year : (z.wallAt u).date.year ≤ (z.wallAt b).date.year + yearLimit := by
      have count := stretch.wallAt_eq (v := b) behind (by omega)
      have count' := stretch.wallAt_eq (v := u) (by omega) (by omega)
      apply le_yearLimit
      apply WallTime.year_le
      unfold WallTime.dayNumber secondsPerDay
      omega
    obtain ⟨f, u', first', again, place⟩ := iterate_behind (c := ⟨b, true⟩) proper everyDay rare settled
      member full from_le (by simp only; omega) first.named first.ahead (by omega) year
    obtain rfl := first.unique first'
    rcases place with rfl | back
    · exact again
    · rcases way with ⟨v, m, at_v, rest⟩ | kept
      · -- The earlier search came by the change, and goes on as the later one.
        have minute : z.minuteStart v = v.seconds := minuteStart_on stretch (by omega) (by omega)
          (by rw [at_v]; exact stretch.minute)
        have open_v := (Candidate.openFrom_moved z v).trans minute
        obtain ⟨-, v', -, rest', -⟩ := iterate_behind (c := ⟨v, false⟩) proper everyDay rare settled member
          full (by simp only; omega) (by simp only; omega) first.named (by omega) (by omega) year
        obtain rfl := iterate_unique rest rest'
        exact iterate_again proper everyDay (stretch.shorten (by omega)) (Int.le_refl _)
          (Int.le_refl _) ahead (c := ⟨v, false⟩) (by simp only; omega) (by simp only; omega) rest'
      · exact absurd back (kept _)

end

end CronCalendar.Search

namespace CronCalendar.Schedule
set_option autoImplicit false

theorem satisfiable_of_nextRun {s : Schedule} {z : Zone} {now : Instant}
    (real : s.nextRun z now ≠ never) : s.isSatisfiable = true := by
  unfold nextRun at real
  split at real
  · assumption
  · exact absurd rfl real

/-- The next run of a schedule that runs every day is announced again to whoever asks later, in a minute that
ends before it, exactly if the clock is not changed in between or the run is the first named minute behind the
later instant. The clocks of the zone are rarely changed, and of late at full hours. -/
theorem nextRun_again_iff {s : Schedule} {z : Zone} {a b : Instant} (day : s.field .day = .any)
    (month : s.field .month = .any) (weekday : s.field .dayOfWeek = .any) (rare : z.RarelyChanged)
    (settled : z.Settled)
    (full : ∀ x ∈ z.transitions, a.seconds ≤ x.since + 259200 → x.since ≤ b.seconds →
      z.ChangesAtFullHour x)
    (le : a ≤ b) (real : s.nextRun z a ≠ never)
    (ahead : z.minuteStart b + 60 ≤ (s.nextRun z a).seconds) :
    s.nextRun z b = s.nextRun z a ↔
      (∀ x ∈ z.transitions, a.seconds < x.since → b.seconds < x.since) ∨
        (s.matchesAt z (s.nextRun z a) = true ∧
          ∀ m : Instant, z.minuteStart b + 60 ≤ m.seconds → m < s.nextRun z a →
            s.matchesAt z m = false) := by
  obtain ⟨proper, found⟩ := run_of_nextRun real
  have everyDay := Search.namesDate_of_any day month weekday
  have le : a.seconds ≤ b.seconds := by
    rw [Instant.le_iff, Instant.lt_iff] at le
    omega
  have bounds := Search.minuteStart_bounds z b
  have nanos := Search.iterate_nanos proper (Search.run_eq_some.1 found)
  have again_iff : s.nextRun z b = s.nextRun z a ↔
      Search.run? s.timetable z b = some (s.nextRun z a) := by
    constructor
    · intro same
      rw [← same]
      exact (run_of_nextRun (same ▸ real)).2
    · exact nextRun_of_run (satisfiable_of_nextRun real)
  rw [again_iff]
  by_cases steady : ∀ x ∈ z.transitions, a.seconds < x.since → b.seconds < x.since
  · refine iff_of_true ?_ (Or.inl steady)
    apply Search.run_again proper everyDay rare settled le _ _ ahead found
    · intro x member
      rcases Int.lt_or_le a.seconds x.since with after | before
      · exact Or.inr (steady x member after)
      · exact Or.inl before
    · intro x member near before
      exact full x member near (by omega)
  · rw [or_iff_right steady, ← Search.firstFrom_iff nanos (by omega)]
    have change : ∃ x ∈ z.transitions, a.seconds < x.since ∧ x.since ≤ b.seconds := by
      simpa [Int.not_lt] using steady
    obtain ⟨x, member, after, before, first⟩ := Zone.exists_first_transition change
    -- The search from the last minute before the change finds the same.
    obtain ⟨c, last, before', found'⟩ := Search.exists_last_minute proper everyDay rare settled member
      after first (fun y member' near begun => full y member' near (by omega)) (by omega) found
    exact Search.run_again_iff_of_change proper everyDay rare settled member
      (full x member (by omega) before) last before' before ahead found'

/-- At half past two. -/
def halfPastTwo : Schedule where
  taskId := "sweep"
  fields := { minute := .ofText "30", hour := .ofText "2" }

/-- In the night of 2024-03-10, the gap in New York moves the run of half past two to half past three. Before
the gap, whoever asks is told the same. -/
theorem halfPastTwo_again :
    ∃ a b : Instant, a.seconds = 1710040000 ∧ b.seconds = 1710050000 ∧
      (halfPastTwo.nextRun Zone.newYork a).seconds = 1710055800 ∧
      halfPastTwo.nextRun Zone.newYork b = halfPastTwo.nextRun Zone.newYork a := by
  have found : halfPastTwo.nextRun Zone.newYork ⟨1710040000, 0, by decide, by decide, by decide⟩ =
      ⟨1710055800, 0, by decide, by decide, by decide⟩ := by decide +kernel
  refine ⟨⟨1710040000, 0, by decide, by decide, by decide⟩,
    ⟨1710050000, 0, by decide, by decide, by decide⟩, rfl, rfl, by rw [found], ?_⟩
  apply (nextRun_again_iff rfl rfl rfl _ _ _ _ _ _).2 (Or.inl _)
  · exact Zone.rarelyChanged_of_spaced (by decide +kernel) (by decide +kernel) (by decide +kernel)
  · unfold Zone.Settled
    decide +kernel
  · decide +kernel
  · decide
  · rw [found]
    decide
  · rw [found]
    decide +kernel
  · decide +kernel

/-- Ten minutes behind the gap, while the announced run is still to come, the search names the next day. -/
theorem halfPastTwo_forgotten :
    ∃ a b announced next : Instant, a.seconds = 1710050000 ∧ b.seconds = 1710054600 ∧
      announced.seconds = 1710055800 ∧ next.seconds = 1710138600 ∧ a ≤ b ∧
      halfPastTwo.nextRun Zone.newYork a = announced ∧ announced ≠ never ∧
      Zone.newYork.minuteStart b + 60 ≤ announced.seconds ∧
      halfPastTwo.nextRun Zone.newYork b = next ∧ next ≠ announced := by
  refine ⟨⟨1710050000, 0, by decide, by decide, by decide⟩,
    ⟨1710054600, 0, by decide, by decide, by decide⟩,
    ⟨1710055800, 0, by decide, by decide, by decide⟩,
    ⟨1710138600, 0, by decide, by decide, by decide⟩, rfl, rfl, rfl, rfl, by decide, ?_, by decide, ?_,
    ?_, by decide⟩
  · decide +kernel
  · decide +kernel
  · decide +kernel

end CronCalendar.Schedule
