import CronCalendar.Proofs.Schedule.Sequences
import CronCalendar.Proofs.Search.Steps

/-!
# How searches end

A search ends as its steps do, unless one of them takes a date that is out of range; then it is broken
off. It ends in one way only (`EndsWith.unique`), however many steps it is allowed. A step takes a date only
where there is something to aim at (`lacksDate_cases`). So what a search finds is what its steps come to
(`ending_finds`), a search whose steps come to something ends (`exists_ending`), and where a schedule answers
a run, it is its next run (`nextRun_of_answer`).
-/

namespace CronCalendar.Search
set_option autoImplicit false

variable {t : Timetable} {z : Zone} {firstYear : Int} {c c' : Candidate} {u : Instant} {n m : Nat}
  {e : Ending}

theorem isOutOfRange_iff : isOutOfRange z u = true ↔
    (z.wallAt u).count < firstSecond ∨ lastSecond < (z.wallAt u).count := by
  rw [isOutOfRange, Bool.not_eq_true', Bool.eq_false_iff, Ne, WallTime.isSupported_iff]
  omega

/-- The hour that a candidate is moved to, if the hour does not fit. -/
def hourWall (t : Timetable) (w : WallTime) : WallTime :=
  WallTime.atHour (hourDay t w) (t.hours.nextFrom w.hour)

theorem hourLacksDate_eq : hourLacksDate t z c =
    if t.hours.nextFrom (z.wallAt c.instant).hour = (z.wallAt c.instant).hour then false
    else if isOutOfRange z c.instant then true
    else if (hourWall t (z.wallAt c.instant)).isSupported then
      match z.resolve? (hourWall t (z.wallAt c.instant)) with
      | none => false
      | some target =>
        z.isInGap (hourWall t (z.wallAt c.instant)) && !t.hours.contains (z.wallAt target).hour &&
          isOutOfRange z target
    else false := rfl

/-- Where the look at the hours lacks a date, it has an hour to move to. The date is that of the
candidate, or that of the instant to which it is moved over a gap. -/
theorem hourLacksDate_cases (lacks : hourLacksDate t z c = true) :
    t.hours.nextFrom (z.wallAt c.instant).hour ≠ (z.wallAt c.instant).hour ∧
      (isOutOfRange z c.instant = true ∨ ∃ target,
        z.resolve? (hourWall t (z.wallAt c.instant)) = some target ∧
        z.isInGap (hourWall t (z.wallAt c.instant)) = true ∧ isOutOfRange z target = true) := by
  rw [hourLacksDate_eq] at lacks
  split at lacks
  · cases lacks
  rename_i hour
  refine ⟨hour, ?_⟩
  split at lacks
  · exact Or.inl ‹_›
  split at lacks
  · split at lacks
    · cases lacks
    · rename_i target resolved
      simp only [Bool.and_eq_true] at lacks
      exact Or.inr ⟨target, resolved, lacks.1.1, lacks.2⟩
  · cases lacks

/-- A step that lacks a date is within the years and has something to aim at. The date is that of the
candidate, or that of the instant to which it is moved over a gap. -/
theorem lacksDate_cases (lacks : lacksDate t z firstYear c = true) :
    (z.wallAt c.instant).date.year ≤ firstYear + yearLimit ∧
      ∃ a, aim? t (z.wallAt c.instant) = some a ∧
        (isOutOfRange z c.instant = true ∨
          ∃ target, z.resolve? a.wall = some target ∧ z.isInGap a.wall = true ∧
            isOutOfRange z target = true) := by
  unfold lacksDate at lacks
  simp only at lacks
  split at lacks
  · cases lacks
  rename_i within
  refine ⟨by omega, ?_⟩
  split at lacks
  · rename_i month
    split at lacks
    · rename_i day
      obtain ⟨hour, cause⟩ := hourLacksDate_cases lacks
      exact ⟨.hour _ _, by rw [aim?, if_neg (not_not_intro month), if_neg (not_not_intro day), if_pos hour],
        cause⟩
    · rename_i day
      exact ⟨.day _, by rw [aim?, if_neg (not_not_intro month), if_pos day], Or.inl lacks⟩
  · cases lacks

/-- A step with nothing to aim at lacks no date. -/
theorem lacksDate_of_fits (fits : aim? t (z.wallAt c.instant) = none) :
    lacksDate t z firstYear c = false := by
  apply Bool.eq_false_iff.2
  intro lacks
  obtain ⟨-, a, aim, -⟩ := lacksDate_cases lacks
  rw [fits] at aim
  cases aim

/-- A step to an aim that the clock shows lacks no date, if that of its candidate can be told. -/
theorem lacksDate_of_shown {a : Aim} (aim : aim? t (z.wallAt c.instant) = some a)
    (told : isOutOfRange z c.instant = false) (shown : z.isInGap a.wall = false) :
    lacksDate t z firstYear c = false := by
  apply Bool.eq_false_iff.2
  intro lacks
  obtain ⟨-, b, aim', out | ⟨-, -, gap, -⟩⟩ := lacksDate_cases lacks
  · rw [told] at out
    cases out
  · obtain rfl : a = b := Option.some.inj (aim.symm.trans aim')
    rw [shown] at gap
    cases gap

theorem ending_succ : ending? t z firstYear (n + 1) c =
    if lacksDate t z firstYear c then some .breaksOff
    else
      match step t z firstYear c with
      | .goOn c => ending? t z firstYear n c
      | .runs found => some (.finds found)
      | .giveUp => some .givesUp := rfl

/-- What a search finds is what its steps come to. -/
theorem ending_finds (ends : ending? t z firstYear n c = some (.finds u)) :
    iterate t z firstYear n c = .runs u := by
  induction n generalizing c with
  | zero => cases ends
  | succ n ih =>
    rw [ending_succ] at ends
    rw [iterate]
    split at ends
    · cases ends
    cases moved : step t z firstYear c with
    | goOn c' =>
      rw [moved] at ends
      exact ih ends
    | runs v =>
      rw [moved] at ends
      cases ends
      rfl
    | giveUp =>
      rw [moved] at ends
      cases ends

/-- A search that gives up does so by its steps. -/
theorem ending_givesUp (ends : ending? t z firstYear n c = some .givesUp) :
    iterate t z firstYear n c = .giveUp := by
  induction n generalizing c with
  | zero => cases ends
  | succ n ih =>
    rw [ending_succ] at ends
    rw [iterate]
    split at ends
    · cases ends
    cases moved : step t z firstYear c with
    | goOn c' =>
      rw [moved] at ends
      exact ih ends
    | runs v =>
      rw [moved] at ends
      cases ends
    | giveUp => rfl

/-- A search whose steps do not go on has ended. -/
theorem exists_ending (stops : ∀ c', iterate t z firstYear n c ≠ .goOn c') :
    ∃ e, ending? t z firstYear n c = some e := by
  induction n generalizing c with
  | zero => exact absurd rfl (stops c)
  | succ n ih =>
    rw [iterate] at stops
    rw [ending_succ]
    split
    · exact ⟨_, rfl⟩
    cases moved : step t z firstYear c with
    | goOn c' =>
      rw [moved] at stops
      exact ih stops
    | runs v => exact ⟨_, rfl⟩
    | giveUp => exact ⟨_, rfl⟩

/-- A search that has ended does not go on with more steps. -/
theorem ending_mono (ends : ending? t z firstYear n c = some e) (le : n ≤ m) :
    ending? t z firstYear m c = some e := by
  induction n generalizing c m with
  | zero => cases ends
  | succ n ih =>
    obtain ⟨m, rfl⟩ : ∃ k, m = k + 1 := ⟨m - 1, by omega⟩
    rw [ending_succ] at ends ⊢
    split at ends
    · rename_i lacks
      rw [if_pos lacks, ends]
    rename_i told
    rw [if_neg told]
    cases moved : step t z firstYear c with
    | goOn c' =>
      rw [moved] at ends
      exact ih ends (Nat.le_of_succ_le_succ le)
    | runs v =>
      rw [moved] at ends
      exact ends
    | giveUp =>
      rw [moved] at ends
      exact ends

theorem ending_of_runs (told : lacksDate t z firstYear c = false)
    (found : step t z firstYear c = .runs u) (enough : 0 < n) :
    ending? t z firstYear n c = some (.finds u) := by
  obtain ⟨n, rfl⟩ : ∃ k, n = k + 1 := ⟨n - 1, by omega⟩
  rw [ending_succ, told, found]
  rfl

theorem ending_of_goOn (told : lacksDate t z firstYear c = false)
    (moved : step t z firstYear c = .goOn c') (ends : ending? t z firstYear n c' = some e) :
    ending? t z firstYear (n + 1) c = some e := by
  rw [ending_succ, told, moved]
  exact ends

/-- The search from an instant ends so after some number of steps. -/
def EndsWith (t : Timetable) (z : Zone) (start : Instant) (e : Ending) : Prop :=
  ∃ n, ending? t z (z.wallAt start).date.year n ⟨start, true⟩ = some e

/-- A search ends in one way only. -/
theorem EndsWith.unique {start : Instant} {e e' : Ending} (ends : EndsWith t z start e)
    (ends' : EndsWith t z start e') : e = e' := by
  obtain ⟨n, ends⟩ := ends
  obtain ⟨m, ends'⟩ := ends'
  have later := ending_mono ends (Nat.le_max_left n m)
  rw [ending_mono ends' (Nat.le_max_right n m)] at later
  exact (Option.some.inj later).symm

/-- A search none of whose steps lacks a date is not broken off. -/
theorem ending_ne_breaksOff (inv : Candidate → Prop)
    (told : ∀ c, inv c → lacksDate t z firstYear c = false)
    (preserved : ∀ c c', inv c → step t z firstYear c = .goOn c' → inv c') (first : inv c) :
    ending? t z firstYear n c ≠ some .breaksOff := by
  induction n generalizing c with
  | zero => nofun
  | succ n ih =>
    rw [ending_succ, told c first]
    cases moved : step t z firstYear c with
    | goOn c' => exact ih (preserved c c' first moved)
    | runs v => nofun
    | giveUp => nofun

/-! ## The years of a search -/

/-- The first hour, counted from 1970 on, behind the years that the search covers. -/
def hourLimit (firstYear : Int) : Int := 24 * Date.firstDay (12 * (firstYear + yearLimit + 1))

/-- In these years, the clock shows an earlier hour. -/
theorem hour_lt_limit {w : WallTime} (within : w.date.year ≤ firstYear + yearLimit) :
    w.count / 3600 < hourLimit firstYear := by
  have before : ¬ Date.firstDay (12 * (firstYear + yearLimit + 1)) ≤ w.dayNumber := by
    intro le
    have : _ ≤ w.date.year := Date.firstDay_le_iff_year.1 le
    omega
  unfold hourLimit
  unfold WallTime.dayNumber secondsPerDay at before
  omega

/-- The hours that are left at the start. -/
theorem hours_left {start : Instant}
    (bounds : -86400 < z.offsetAt start.seconds ∧ z.offsetAt start.seconds < 86400) :
    hourLimit (z.wallAt start).date.year - (start.seconds - 86400) / 3600 ≤ 80402 := by
  have first : Date.firstDay (12 * (z.wallAt start).date.year) ≤ (z.wallAt start).dayNumber :=
    Date.firstDay_le_iff_year.2 (Int.le_refl _)
  have span := Date.firstDay_le_add (12 * (z.wallAt start).date.year) 108
  have number : (z.wallAt start).dayNumber = (start.seconds + z.offsetAt start.seconds) / 86400 := rfl
  rw [hourLimit, yearLimit, show 12 * ((z.wallAt start).date.year + 8 + 1) =
    12 * (z.wallAt start).date.year + ((108 : Nat) : Int) by omega]
  omega

end CronCalendar.Search

namespace CronCalendar.Schedule
set_option autoImplicit false

open Search

variable {s : Schedule} {z : Zone} {now u : Instant} {n : Nat}

/-- A next run that is answered is the next run. -/
theorem nextRun_of_answer (answered : s.answer z now = .ok u) : s.nextRun z now = u := by
  unfold answer at answered
  unfold nextRun
  split at answered
  · rename_i satisfiable
    rw [if_pos satisfiable]
    split at answered
    · rename_i ends
      cases answered
      rw [run_eq_some.2 (ending_finds ends)]
      rfl
    · rename_i ends
      cases answered
      rw [run?, outcome, ending_givesUp ends]
      rfl
    · cases answered
    · cases answered
  · rename_i unsatisfiable
    cases answered
    rw [if_neg unsatisfiable]

/-- A run that is found is answered. -/
theorem answer_of_ending (satisfiable : s.isSatisfiable = true) (enough : n ≤ stepLimit)
    (ends : ending? s.timetable z (z.wallAt now).date.year n ⟨now, true⟩ = some (.finds u)) :
    s.answer z now = .ok u := by
  rw [answer, if_pos satisfiable, ending_mono ends enough]

/-- A search that comes to an end and is not broken off is answered by the next run. -/
theorem answer_of_told {e : Ending} (satisfiable : s.isSatisfiable = true)
    (ends : ending? s.timetable z (z.wallAt now).date.year stepLimit ⟨now, true⟩ = some e)
    (told : e ≠ .breaksOff) : s.answer z now = .ok (s.nextRun z now) := by
  obtain ⟨next, answered⟩ : ∃ next, s.answer z now = .ok next := by
    rw [answer, if_pos satisfiable, ends]
    cases e with
    | finds u => exact ⟨u, rfl⟩
    | givesUp => exact ⟨never, rfl⟩
    | breaksOff => exact absurd rfl told
  rw [answered, nextRun_of_answer answered]

/-- A schedule that cannot run needs no search. -/
theorem answer_of_unsatisfiable (unsatisfiable : s.isSatisfiable = false) :
    s.answer z now = .ok (s.nextRun z now) := by
  rw [answer, nextRun, unsatisfiable]
  rfl

/-- Runs that are answered are the next runs. -/
theorem nextRuns_of_answers {runs : List Instant} (answered : s.answers z now n = .ok runs) :
    s.nextRuns z now n = runs := by
  induction n generalizing now runs with
  | zero =>
    cases answered
    rfl
  | succ n ih =>
    rw [answers] at answered
    split at answered
    · cases answered
    rename_i next first
    rw [nextRuns, nextRun_of_answer first]
    split at answered
    · rename_i stops
      cases answered
      rw [if_pos stops]
    · rename_i real
      rw [if_neg real]
      cases later : s.answers z next n with
      | error e =>
        rw [later] at answered
        cases answered
      | ok rest =>
        rw [later] at answered
        cases answered
        rw [ih later]

end CronCalendar.Schedule
