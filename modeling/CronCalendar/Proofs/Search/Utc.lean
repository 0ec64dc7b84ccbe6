import CronCalendar.Proofs.Search.Steps
import CronCalendar.Proofs.Schedule.Sequences

/-!
# The search in coordinated universal time

Where clocks are never changed, a step either gives up or moves to the start of a minute that is
still ahead, and passes no named minute apart from those of leapt days (`Follows`). `step_utc` is the
step lemma and `iterate_utc` the run lemma; `nextRun_utc_runsBehind` says what they come to for the runs of a
schedule.
-/

namespace CronCalendar.Search
set_option autoImplicit false

open Zone (utc)

/-- The first minute, counted from 1970 on, in which a candidate may still find a run. -/
def Candidate.earliest (c : Candidate) : Int :=
  c.instant.seconds / 60 + if c.untouched then 1 else 0

@[simp] theorem Candidate.earliest_first (v : Instant) :
    Candidate.earliest ⟨v, true⟩ = v.seconds / 60 + 1 := rfl

@[simp] theorem Candidate.earliest_moved (v : Instant) :
    Candidate.earliest ⟨v, false⟩ = v.seconds / 60 := Int.add_zero _

theorem Candidate.le_earliest (c : Candidate) : c.instant.seconds / 60 ≤ c.earliest := by
  unfold earliest
  split <;> omega

/-- The start of a minute to which the search may move a candidate: no named minute is passed,
unless the search leaps over its day. -/
structure Follows (t : Timetable) (c : Candidate) (v : Instant) : Prop where
  nanos : v.nanos = 0
  whole : v.seconds % 60 = 0
  ahead : c.earliest ≤ v.seconds / 60
  passes : ∀ w : WallTime, t.names w = true → c.earliest ≤ w.count / 60 → w.count < v.seconds →
    LeaptOver t w.date

variable {t : Timetable} {firstYear : Int} {c c' : Candidate} {u v : Instant}

theorem exists_startOfMinute_utc (v : Instant) :
    ∃ start, startOfMinute? utc v = some start ∧ start.seconds = 60 * (v.seconds / 60) ∧
      start.nanos = 0 := by
  have second := WallTime.second_eq ⟨v.seconds⟩
  have first := v.firstSecond_le
  have last := v.le_lastSecond
  simp only at second
  unfold firstSecond at first
  obtain ⟨start, found⟩ := @Instant.exists_ofSeconds (v.seconds - (WallTime.second ⟨v.seconds⟩ : Nat))
    (by unfold firstSecond; omega) (by omega)
  obtain ⟨seconds, nanos⟩ := Instant.ofSeconds_eq_some_iff.1 found
  refine ⟨start, ?_, by omega, nanos⟩
  rw [startOfMinute?, Zone.wallAt_utc, found]

/-- No wall time lies in a gap. -/
theorem looks_utc {b : Candidate} (h : Looks t utc c b) : b = c ∧ aim? t ⟨c.instant.seconds⟩ = none := by
  cases h with
  | stands none =>
    rw [Zone.wallAt_utc] at none
    exact ⟨rfl, none⟩
  | jumped aim supported resolved stays =>
    rw [Zone.resolve_utc] at resolved
    simp [staysInJumpedHour, Zone.isInGap, Zone.firstShowing_utc, resolved] at stays

/-- The look at the minutes goes on to the next minute or to the next full hour. -/
theorem minuteStep_goOn_utc (proper : t.Proper) (h : minuteStep t utc c = .goOn c') :
    c'.untouched = false ∧ c.instant.seconds / 60 < c'.instant.seconds / 60 ∧
      Follows t c c'.instant := by
  obtain ⟨touched, start', found', moved⟩ := minuteStep_goOn h
  obtain ⟨start, found, seconds, nanos⟩ := exists_startOfMinute_utc c.instant
  obtain rfl : start' = start := Option.some.inj (found'.symm.trans found)
  rw [Zone.wallAt_utc] at moved
  have minute := WallTime.minute_eq ⟨start'.seconds⟩
  simp only at minute
  rcases moved with ⟨untouched, -, moved⟩ | ⟨wraps, moved⟩
  · obtain ⟨seconds', nanos'⟩ := addMinutes_eq_some.1 moved
    refine ⟨touched, by omega, by omega, by omega, ?_, ?_⟩
    · rw [Candidate.earliest, if_pos untouched]
      omega
    · intro w _ from_le lt
      rw [Candidate.earliest, if_pos untouched] at from_le
      omega
  · obtain ⟨seconds', nanos'⟩ := addMinutes_eq_some.1 moved
    refine ⟨touched, by omega, by omega, by omega, ?_, ?_⟩
    · rw [Candidate.earliest]
      split <;> omega
    · intro w named from_le lt
      have from_le := Int.le_trans c.le_earliest from_le
      have first := minute_first (w := ⟨start'.seconds⟩) proper (v := w) (by simp only; omega)
        (by simp only; omega) (Timetable.names_iff.1 named).2.2
      omega

/-- The look at the minutes finds the first named minute of the hour. -/
theorem minuteStep_runs_utc (proper : t.Proper) (fits : aim? t ⟨c.instant.seconds⟩ = none)
    (h : minuteStep t utc c = .runs u) : Follows t c u ∧ t.names ⟨u.seconds⟩ = true := by
  obtain ⟨start', found', ahead, first, moved⟩ := minuteStep_runs h
  obtain ⟨start, found, seconds, nanos⟩ := exists_startOfMinute_utc c.instant
  obtain rfl : start' = start := Option.some.inj (found'.symm.trans found)
  rw [Zone.wallAt_utc] at ahead first moved
  have minute := WallTime.minute_eq ⟨start'.seconds⟩
  have member := Values.nextFrom_mem proper.minutes (WallTime.minute ⟨start'.seconds⟩)
  have minute_lt := proper.minute_lt _ member
  simp only at minute
  obtain ⟨seconds', nanos'⟩ := addMinutes_eq_some.1 moved
  constructor
  · refine ⟨by omega, by omega, ?_, ?_⟩
    · rw [Candidate.earliest]
      split
      · have := first ‹_›
        omega
      · omega
    · intro w named from_le lt
      have from_le := Int.le_trans c.le_earliest from_le
      have minute' := w.minute_eq
      have least := minute_first (w := ⟨start'.seconds⟩) proper (v := w) (by simp only; omega)
        (by simp only; omega) (Timetable.names_iff.1 named).2.2
      omega
  · obtain ⟨date, hour⟩ := (aim_eq_none_iff proper).1 fits
    have same := @WallTime.sameHour ⟨u.seconds⟩ ⟨c.instant.seconds⟩ (by simp only; omega)
    have minute' := WallTime.minute_eq ⟨u.seconds⟩
    simp only at minute'
    have found' : WallTime.minute ⟨u.seconds⟩ = t.minutes.nextFrom (WallTime.minute ⟨start'.seconds⟩) := by
      omega
    rw [Timetable.names_iff, same.1, same.2, found']
    exact ⟨date, hour, member⟩

/-- A step gives up, or moves to a minute that follows; where it finds a run, that is named. -/
theorem step_utc (proper : t.Proper) (firstYear : Int) (c : Candidate) :
    step t utc firstYear c = .giveUp ∨
    (∃ v, step t utc firstYear c = .goOn ⟨v, false⟩ ∧ c.instant.seconds / 60 < v.seconds / 60 ∧
      Follows t c v) ∨
    ∃ u, step t utc firstYear c = .runs u ∧ Follows t c u ∧ t.names ⟨u.seconds⟩ = true := by
  rcases step_cases proper firstYear c with h | ⟨a, target, aim, -, resolved, h⟩ | ⟨b, looks, h⟩
  · exact Or.inl h
  · rw [Zone.wallAt_utc] at aim
    rw [Zone.resolve_utc] at resolved
    obtain ⟨seconds, nanos⟩ := Instant.ofSeconds_eq_some_iff.1 resolved
    obtain ⟨ahead, full⟩ := aim_ahead proper aim
    simp only at ahead
    refine Or.inr (Or.inl ⟨target, h, by omega, nanos, by omega, ?_, ?_⟩)
    · rw [Candidate.earliest]
      split <;> omega
    · intro w named from_le lt
      exact aim_passes proper aim (Int.le_trans c.le_earliest from_le) (by omega) named
  · obtain ⟨rfl, fits⟩ := looks_utc looks
    rw [h]
    cases look : minuteStep t utc b with
    | giveUp => exact Or.inl rfl
    | goOn c' =>
      obtain ⟨touched, later, follows⟩ := minuteStep_goOn_utc proper look
      obtain ⟨v, untouched⟩ := c'
      obtain rfl : untouched = false := touched
      exact Or.inr (Or.inl ⟨v, rfl, later, follows⟩)
    | runs u =>
      exact Or.inr (Or.inr ⟨u, rfl, minuteStep_runs_utc proper fits look⟩)

/-- The minutes that follow one another, the later seen from the earlier. -/
theorem Follows.trans (h : Follows t c v) (h' : Follows t ⟨v, false⟩ u) : Follows t c u := by
  have ahead := h.ahead
  have ahead' := h'.ahead
  have whole := h.whole
  rw [Candidate.earliest_moved] at ahead'
  refine ⟨h'.nanos, h'.whole, by omega, ?_⟩
  intro w named from_le lt
  by_cases passed : w.count < v.seconds
  · exact h.passes w named from_le passed
  · apply h'.passes w named _ lt
    rw [Candidate.earliest_moved]
    omega

/-- What holds of every candidate that a search reaches from another: it is the same, or stands on a
minute that follows. -/
def Reached (t : Timetable) (first c : Candidate) : Prop :=
  c = first ∨ c.untouched = false ∧ Follows t first c.instant

theorem Reached.follows {first : Candidate} (h : Reached t first c) (h' : Follows t c v) :
    Follows t first v := by
  obtain ⟨instant, untouched⟩ := c
  rcases h with h | ⟨touched, earlier⟩
  · rw [h] at h'
    exact h'
  · obtain rfl : untouched = false := touched
    exact earlier.trans h'

theorem Reached.step {first : Candidate} (proper : t.Proper) (h : Reached t first c)
    (moved : step t utc firstYear c = .goOn c') : Reached t first c' := by
  rcases step_utc proper firstYear c with h' | ⟨v, h', -, follows⟩ | ⟨u, h', -⟩
  · exact nomatch moved.symm.trans h'
  · obtain rfl : c' = ⟨v, false⟩ := Outcome.goOn.inj (moved.symm.trans h')
    exact Or.inr ⟨rfl, h.follows follows⟩
  · exact nomatch moved.symm.trans h'

/-- The run that is found from a candidate is named and follows it. -/
theorem iterate_utc (proper : t.Proper) {n : Nat} (h : iterate t utc firstYear n c = .runs u) :
    Follows t c u ∧ t.names ⟨u.seconds⟩ = true := by
  obtain ⟨last, reached, found⟩ := exists_last_step (Reached t c)
    (fun _ _ reached moved => reached.step proper moved) (Or.inl rfl) h
  rcases step_utc proper firstYear last with h | ⟨v, h, -⟩ | ⟨u', h, follows, named⟩
  · exact nomatch found.symm.trans h
  · exact nomatch found.symm.trans h
  · obtain rfl : u = u' := Outcome.runs.inj (found.symm.trans h)
    exact ⟨reached.follows follows, named⟩

theorem run_utc (proper : t.Proper) {now : Instant} (h : run? t utc now = some u) :
    Follows t ⟨now, true⟩ u ∧ t.names ⟨u.seconds⟩ = true :=
  iterate_utc proper (run_eq_some.1 h)

end CronCalendar.Search

namespace CronCalendar.Schedule
set_option autoImplicit false

open Zone (utc)

/-- A run that comes when it should: at the start of a named minute behind the minute of `now`. -/
structure RunsBehind (s : Schedule) (now t : Instant) : Prop where
  nanos : t.nanos = 0
  whole : t.seconds % 60 = 0
  behind : 60 * (now.seconds / 60 + 1) ≤ t.seconds
  named : s.matchesAt utc t = true

theorem RunsBehind.trans {s : Schedule} {a b c : Instant} (h : RunsBehind s a b)
    (h' : RunsBehind s b c) : RunsBehind s a c := by
  have := h.behind
  have := h'.behind
  exact ⟨h'.nanos, h'.whole, by omega, h'.named⟩

theorem runsBehind_nextRun {s : Schedule} {now : Instant} (h : s.nextRun utc now ≠ never) :
    RunsBehind s now (s.nextRun utc now) := by
  obtain ⟨proper, found⟩ := run_of_nextRun h
  obtain ⟨follows, named⟩ := Search.run_utc proper found
  have ahead := follows.ahead
  rw [Search.Candidate.earliest_first] at ahead
  refine ⟨follows.nanos, follows.whole, by omega, ?_⟩
  rw [matchesAt, Zone.wallAt_utc]
  exact named

/-- Every next run, and every member of a list of runs, is a whole minute behind the start that the
schedule names. -/
theorem nextRun_utc_runsBehind (s : Schedule) (now : Instant) :
    (s.nextRun utc now = never ∨ RunsBehind s now (s.nextRun utc now)) ∧
      ∀ n, ∀ t ∈ s.nextRuns utc now n, RunsBehind s now t := by
  constructor
  · by_cases h : s.nextRun utc now = never
    · exact Or.inl h
    · exact Or.inr (runsBehind_nextRun h)
  · intro n t ht
    have chain := @pairwise_nextRuns s utc (fun _ => True) (RunsBehind s)
      (fun _ _ _ => RunsBehind.trans) (fun _ _ h => ⟨runsBehind_nextRun h, trivial⟩) n now trivial
    exact (List.pairwise_cons.1 chain).1 t ht

end CronCalendar.Schedule
