import CronCalendar.Proofs.Search.Completeness

/-!
# When a list of runs ends

A list of runs is shorter than asked for when the next run of its last member is the sentinel. In
coordinated universal time that has three causes (`nextRun_utc_eq_never_iff`): no later minute is
named, as it should be; a field matches nothing, although the others still name minutes; or the next
named minute is the sentinel itself, which is then taken for its own absence. `CutShort` collects the
last two, and `exhausted_iff` says that the lists which do not end so are complete.
-/

namespace CronCalendar
set_option autoImplicit false

open Zone (utc)

/-- The text of an instant has more than the five characters of `never`. -/
theorem describeInstant_ne_never (z : Zone) (t : Instant) : describeInstant z t ≠ "never" := by
  intro h
  have length := congrArg String.length h
  have short : "never".length = 5 := by decide
  have dash : "-".length = 1 := by decide
  have colon : ":".length = 1 := by decide
  simp [describeInstant, Timestamp.secondsText, Timestamp.wallText, Timestamp.dateText,
    Timestamp.minuteText] at length
  omega

namespace Schedule

variable {s : Schedule} {z : Zone} {now t : Instant}

/-- No minute behind that of an instant is named. -/
def NoneNamed (s : Schedule) (now : Instant) : Prop :=
  ∀ m : Instant, now.seconds / 60 < m.seconds / 60 → s.matchesAt utc m = false

/-- The minute of `t` is the first named one behind that of `now`. -/
structure FirstNamed (s : Schedule) (now t : Instant) : Prop where
  behind : now.seconds / 60 < t.seconds / 60
  named : s.matchesAt utc t = true
  first : ∀ m : Instant, now.seconds / 60 < m.seconds / 60 → m.seconds / 60 < t.seconds / 60 →
    s.matchesAt utc m = false

/-- No run follows an instant, although a later minute is named. -/
inductive CutShort (s : Schedule) (last : Instant) : Prop
  | emptyField {m : Instant} (empty : s.isSatisfiable = false)
      (behind : last.seconds / 60 < m.seconds / 60) (named : s.matchesAt utc m = true)
  | sentinel (next : FirstNamed s last never)

theorem CutShort.not_noneNamed (cut : CutShort s now) : ¬ NoneNamed s now := by
  intro none
  cases cut with
  | emptyField _ behind named => exact nomatch named.symm.trans (none _ behind)
  | sentinel next => exact nomatch next.named.symm.trans (none never next.behind)

/-- The years before that of the sentinel are those of the wall times before it. -/
theorem year_lt_never {w : WallTime} : w.date.year < 2222 ↔ w.count < never.seconds := by
  have start : Date.firstDay (12 * 2222) = 92041 := by decide
  have place := @Date.firstDay_le_iff_year 2222 w.dayNumber
  rw [start] at place
  have day : w.dayNumber = w.count / 86400 := rfl
  have second : never.seconds = 86400 * 92041 := rfl
  unfold WallTime.date
  omega

/-- The search finds the sentinel when it is the first named minute. -/
theorem run_eq_never_iff (proper : s.timetable.Proper) :
    Search.run? s.timetable utc now = some never ↔ FirstNamed s now never := by
  constructor
  · intro found
    obtain ⟨follows, named⟩ := Search.run_utc proper found
    have ahead := follows.ahead
    rw [Search.Candidate.earliest_first] at ahead
    refine ⟨by omega, by rw [matchesAt, Zone.wallAt_utc]; exact named, ?_⟩
    intro m behind before
    rw [matchesAt, Zone.wallAt_utc]
    apply Bool.eq_false_iff.2
    intro named'
    -- The named minute before the sentinel, or one behind it in the same year, is not leapt over.
    obtain ⟨w, named', kept, year, later, -⟩ := Search.exists_kept proper named'
      (WallTime.isSupported_iff.2 ⟨m.firstSecond_le, m.le_lastSecond⟩)
    simp only at later
    have early : WallTime.count ⟨m.seconds⟩ < never.seconds := by
      simp only
      omega
    have early' := year_lt_never.1 (year ▸ year_lt_never.2 early)
    apply kept
    apply follows.passes w named' _ early'
    rw [Search.Candidate.earliest_first]
    omega
  · intro next
    cases found : Search.run? s.timetable utc now with
    | none =>
      have unnamed := (Search.run_eq_none_iff proper).1 found never next.behind
      have named := next.named
      rw [matchesAt, Zone.wallAt_utc, unnamed] at named
      cases named
    | some u =>
      obtain ⟨follows, named⟩ := Search.run_utc proper found
      have ahead := follows.ahead
      have whole := follows.whole
      rw [Search.Candidate.earliest_first] at ahead
      have reached : u.seconds ≤ never.seconds := by
        apply Int.not_lt.1
        intro passed
        have behind := next.behind
        have named := next.named
        rw [matchesAt, Zone.wallAt_utc] at named
        have leapt := follows.passes ⟨never.seconds⟩ named
          (by rw [Search.Candidate.earliest_first]; simp only; omega) passed
        have january : (WallTime.date ⟨never.seconds⟩).month = 1 := by decide
        exact absurd (leapt.march.symm.trans january) (by decide)
      have at_least : never.seconds ≤ u.seconds := by
        have minute : never.seconds % 60 = 0 := by decide
        apply Int.not_lt.1
        intro early
        have unnamed := next.first u (by omega) (by omega)
        rw [matchesAt, Zone.wallAt_utc, named] at unnamed
        cases unnamed
      rw [Instant.eq_of_parts (Int.le_antisymm reached at_least) follows.nanos]

/-- The causes for which no run follows an instant. -/
theorem nextRun_utc_eq_never_iff :
    s.nextRun utc now = never ↔ NoneNamed s now ∨ CutShort s now := by
  by_cases satisfiable : s.isSatisfiable = true
  · have proper := timetable_proper satisfiable
    have none_iff : Search.run? s.timetable utc now = none ↔ NoneNamed s now := by
      rw [Search.run_eq_none_iff proper]
      unfold NoneNamed matchesAt
      simp only [Zone.wallAt_utc]
    constructor
    · intro h
      cases found : Search.run? s.timetable utc now with
      | none => exact Or.inl (none_iff.1 found)
      | some u =>
        rw [nextRun_of_run satisfiable found] at h
        exact Or.inr (.sentinel ((run_eq_never_iff proper).1 (h ▸ found)))
    · rintro (none | cut)
      · rw [nextRun, if_pos satisfiable, none_iff.2 none]
        rfl
      · cases cut with
        | emptyField empty =>
          rw [satisfiable] at empty
          cases empty
        | sentinel next => exact nextRun_of_run satisfiable ((run_eq_never_iff proper).2 next)
  · have stops : s.nextRun utc now = never := by rw [nextRun, if_neg satisfiable]
    refine ⟨fun _ => ?_, fun _ => stops⟩
    by_cases none : NoneNamed s now
    · exact Or.inl none
    · obtain ⟨m, some⟩ := Classical.not_forall.1 none
      obtain ⟨behind, named⟩ := Classical.not_imp.1 some
      exact Or.inr (.emptyField (Bool.eq_false_iff.2 satisfiable) behind (Bool.ne_false_iff.1 named))

/-- Behind the last member of a list that is shorter than asked for, no run follows. -/
theorem nextRun_getLastD {n : Nat} (short : (s.nextRuns z now n).length < n) :
    s.nextRun z ((s.nextRuns z now n).getLastD now) = never := by
  induction n generalizing now with
  | zero => exact absurd short (Nat.not_lt_zero _)
  | succ n ih =>
    rw [nextRuns_succ] at *
    split
    · rename_i stops
      exact stops
    · rename_i real
      rw [if_neg real, List.length_cons] at short
      rw [List.getLastD_cons]
      exact ih (Nat.lt_of_succ_lt_succ short)

theorem nextRuns_eq_nil_iff {n : Nat} :
    s.nextRuns z now n = [] ↔ n = 0 ∨ s.nextRun z now = never := by
  cases n with
  | zero => simp [nextRuns]
  | succ n =>
    rw [nextRuns_succ]
    split <;> simp [*]

theorem upcoming_eq_never_iff {n : Nat} :
    s.upcoming z now n = ["never"] ↔ s.nextRuns z now n = [] := by
  unfold upcoming describeRuns
  split
  · rename_i nil
    simp [nil]
  · rename_i runs some
    refine ⟨fun h => ?_, fun nil => absurd nil some⟩
    obtain ⟨t, single, text⟩ := List.map_eq_singleton_iff.1 h
    exact absurd text (describeInstant_ne_never z t)

/-- In coordinated universal time, a list of runs that is shorter than asked for is followed by no named
minute exactly if it is not cut short, and `never` stands for a list of no runs, for one that no
named minute follows, or for one that is cut short. -/
theorem exhausted_iff (s : Schedule) (after : Instant) (n : Nat) :
    (((s.nextRuns utc after n).length < n →
          ∀ m : Instant, ((s.nextRuns utc after n).getLastD after).seconds / 60 < m.seconds / 60 →
            s.matchesAt utc m = false) ↔
        ((s.nextRuns utc after n).length < n →
          ¬ CutShort s ((s.nextRuns utc after n).getLastD after))) ∧
      (s.upcoming utc after n = ["never"] ↔
        n = 0 ∨
          (∀ m : Instant, after.seconds / 60 < m.seconds / 60 → s.matchesAt utc m = false) ∨
          CutShort s after) := by
  constructor
  · constructor
    · intro complete short cut
      exact cut.not_noneNamed (complete short)
    · intro uncut short
      rcases nextRun_utc_eq_never_iff.1 (nextRun_getLastD short) with none | cut
      · exact none
      · exact absurd cut (uncut short)
  · rw [upcoming_eq_never_iff, nextRuns_eq_nil_iff, nextRun_utc_eq_never_iff]
    rfl

/-- At midnight on New Year's Day. -/
def newYear : Schedule where
  taskId := "greet"
  fields := { minute := .ofText "0", hour := .ofText "0", day := .ofText "1", month := .ofText "1" }

/-- From 2221-12-04 on, the next New Year's Day is that of 2222, and the list of runs is empty. -/
theorem newYear_cut_short :
    newYear.isSatisfiable = true ∧ ∃ now m : Instant, now.seconds = 7950000000 ∧
      newYear.nextRuns utc now 1 = [] ∧ newYear.upcoming utc now 1 = ["never"] ∧
      now.seconds / 60 < m.seconds / 60 ∧ newYear.matchesAt utc m = true := by
  refine ⟨by decide +kernel, ⟨7950000000, 0, by decide, by decide, by decide⟩, never, rfl, ?_, ?_,
    by decide, ?_⟩
  · decide +kernel
  · decide +kernel
  · decide +kernel

end Schedule

end CronCalendar
