import CronCalendar.Proofs.Search.Advance
import CronCalendar.Proofs.Search.Setbacks
import CronCalendar.Proofs.Zone.ClearDays

/-!
# The search comes to an end

Neither the instants nor the wall times of the candidates grow with each step: a jump out of the second
pass of an overlap goes back in time, and a move by minutes goes back on the clock where that is put
back. What grows is the hour of the last aim (`Pending`). After a jump the clock shows the aim, and then
only another jump goes on from there, as a full hour has every minute ahead; or the aim lies in a gap, and
then the clock never shows less again. So the next aim comes behind the last one. Between two jumps
there are four moves by minutes at most (`settlesWithin_four`), since a move that wraps ends at a full
hour unless the clock was changed under it. The aims have an end in the years that a search covers, and
`iterate_of_pending` counts the steps. A search that stays a day inside the supported years takes no date
that is out of range (`lacksDate_of_pending`), so it is not broken off.
-/

namespace CronCalendar.Search
set_option autoImplicit false

variable {t : Timetable} {z : Zone} {firstYear b : Int} {c c' : Candidate} {k : Nat}

/-! ## Moves by minutes -/

/-- The look at the minutes goes on so many times in a row at most. -/
def SettlesWithin (t : Timetable) (z : Zone) : Nat → Candidate → Prop
  | 0, c => ∀ c', minuteStep t z c ≠ .goOn c'
  | k + 1, c => ∀ c', minuteStep t z c = .goOn c' → SettlesWithin t z k c'

theorem SettlesWithin.succ (h : SettlesWithin t z k c) : SettlesWithin t z (k + 1) c := by
  induction k generalizing c with
  | zero => exact fun c' moved => absurd moved (h c')
  | succ k ih => exact fun c' moved => ih (h c' moved)

/-- Where the look at the minutes moves a candidate: by whole minutes from the start of its own, and by the
rest of the hour if the search has moved it before. -/
theorem minuteStep_place (moved : minuteStep t z c = .goOn c') :
    c'.untouched = false ∧ c'.instant.nanos = 0 ∧ ∃ j : Int, 1 ≤ j ∧ j ≤ 60 ∧
      c'.instant.seconds = z.minuteStart c.instant + 60 * j ∧
      (c.untouched = false →
        (z.minuteStart c.instant + z.offsetAt (z.minuteStart c.instant)) / 60 % 60 + j = 60) := by
  obtain ⟨touched, start, found, moved⟩ := minuteStep_goOn moved
  obtain ⟨seconds, nanos⟩ := startOfMinute_eq_some.1 found
  have place : start.seconds = z.minuteStart c.instant := seconds
  have minute := (z.wallAt start).minute_eq
  have minute_lt := (z.wallAt start).minute_lt
  have count : (z.wallAt start).count = start.seconds + z.offsetAt start.seconds := rfl
  rw [place] at count
  refine ⟨touched, ?_⟩
  rcases moved with ⟨untouched, -, moved⟩ | ⟨-, moved⟩
  · obtain ⟨seconds', nanos'⟩ := addMinutes_eq_some.1 moved
    exact ⟨by omega, 1, by omega, by omega, by omega, fun touched => by simp [untouched] at touched⟩
  · obtain ⟨seconds', nanos'⟩ := addMinutes_eq_some.1 moved
    exact ⟨by omega, 60 - (z.wallAt start).minute, by omega, by omega, by omega, fun _ => by omega⟩

/-- A full hour has every minute ahead. -/
theorem settles_of_fullHour (touched : c.untouched = false) (nanos : c.instant.nanos = 0)
    (full : (z.wallAt c.instant).count % 3600 = 0) : SettlesWithin t z 0 c := by
  obtain ⟨instant, untouched⟩ := c
  obtain rfl : untouched = false := touched
  exact fun c' => minuteStep_fullHour_ne_goOn nanos full

/-- A move to the end of the hour settles a candidate, if the clock is not changed under it. -/
theorem settles_of_wrap (touched : c.untouched = false) (moved : minuteStep t z c = .goOn c')
    (start : z.offsetAt (z.minuteStart c.instant) = z.offsetAt c.instant.seconds)
    (stop : z.offsetAt c'.instant.seconds = z.offsetAt c.instant.seconds) : SettlesWithin t z 0 c' := by
  obtain ⟨touched', nanos, j, first, last, place, wraps⟩ := minuteStep_place moved
  have wraps := wraps touched
  have count : (z.wallAt c.instant).count = c.instant.seconds + z.offsetAt c.instant.seconds := rfl
  have count' : (z.wallAt c'.instant).count = c'.instant.seconds + z.offsetAt c'.instant.seconds := rfl
  have second := (z.wallAt c.instant).second_eq
  have start_eq : z.minuteStart c.instant = c.instant.seconds - (z.wallAt c.instant).second := rfl
  exact settles_of_fullHour touched' nanos (by omega)

/-- Where the clock is not changed for two hours, the first move ends at the start of a minute, and the
second one at a full hour. -/
theorem settles_of_quiet (quiet : ∀ q, c.instant.seconds ≤ q → q ≤ c.instant.seconds + 7200 →
    z.offsetAt q = z.offsetAt c.instant.seconds) : SettlesWithin t z 2 c := by
  intro c₁ moved c₂ moved'
  have bounds := minuteStart_bounds z c.instant
  obtain ⟨touched, -, j, first, last, place, -⟩ := minuteStep_place moved
  obtain ⟨-, -, j', first', last', place', -⟩ := minuteStep_place moved'
  have count : (z.wallAt c.instant).count = c.instant.seconds + z.offsetAt c.instant.seconds := rfl
  have count' : (z.wallAt c₁.instant).count = c₁.instant.seconds + z.offsetAt c₁.instant.seconds := rfl
  have second := (z.wallAt c.instant).second_eq
  have second' := (z.wallAt c₁.instant).second_eq
  have start_eq : z.minuteStart c.instant = c.instant.seconds - (z.wallAt c.instant).second := rfl
  have start_eq' : z.minuteStart c₁.instant = c₁.instant.seconds - (z.wallAt c₁.instant).second := rfl
  have same := quiet c₁.instant.seconds (by omega) (by omega)
  have start : z.minuteStart c₁.instant = c₁.instant.seconds := by omega
  exact settles_of_wrap touched moved' (by rw [start]) (by rw [same]; exact quiet _ (by omega) (by omega))

section
variable (rare : z.RarelyChanged)
include rare

/-- A candidate that the search has moved is moved on to a full hour, or over a change of the clock. -/
theorem settles_of_touched (touched : c.untouched = false) : SettlesWithin t z 3 c := by
  intro c' moved
  have bounds := minuteStart_bounds z c.instant
  obtain ⟨-, -, j, first, last, place, -⟩ := minuteStep_place moved
  by_cases change : ∃ a ∈ z.transitions, z.minuteStart c.instant < a.since ∧ a.since ≤ c'.instant.seconds
  · obtain ⟨a, member, after, before⟩ := change
    refine settles_of_quiet fun q from_le le => ?_
    rw [Zone.offsetAt_behind rare member (t := q) (by omega) (by omega),
      Zone.offsetAt_behind rare member before (by omega)]
  · have quiet {u : Int} (from_le : z.minuteStart c.instant ≤ u) (le : u ≤ c'.instant.seconds) :
        z.offsetAt (z.minuteStart c.instant) = z.offsetAt u := by
      apply Zone.offsetAt_eq from_le
      intro a member
      by_cases begun : a.since ≤ z.minuteStart c.instant
      · exact Or.inl begun
      · exact Or.inr (Int.not_le.1 fun le' => change ⟨a, member, by omega, by omega⟩)
    have start := quiet (u := c.instant.seconds) (by omega) (by omega)
    have stop := quiet (u := c'.instant.seconds) (by omega) (Int.le_refl _)
    exact (settles_of_wrap touched moved start (by rw [← stop, start])).succ.succ

/-- There are four moves by minutes in a row at most: out of the minute in which the search started, over a
change of the clock, to the start of a minute and to a full hour. -/
theorem settlesWithin_four (c : Candidate) : SettlesWithin t z 4 c :=
  fun _ moved => settles_of_touched rare (minuteStep_place moved).1

end

/-! ## Jumps -/

/-- What a candidate has reached: the clock shows no less than the last aim `b`, nor will it unless the
candidate is settled, and so many moves by minutes are left until it is. -/
structure Pending (t : Timetable) (z : Zone) (b : Int) (k : Nat) (c : Candidate) : Prop where
  reached : b ≤ (z.wallAt c.instant).count
  settles : SettlesWithin t z k c
  ahead : k = 0 ∨ ∀ q, c.instant.seconds ≤ q → b ≤ q + z.offsetAt q

/-- Where the clock shows no less from now on, moves by minutes keep that. -/
theorem Pending.minuteStep_goOn (pending : Pending t z b k c) (moved : minuteStep t z c = .goOn c') :
    ∃ j, k = j + 1 ∧ Pending t z b j c' := by
  have bounds := minuteStart_bounds z c.instant
  obtain ⟨-, -, j, first, last, place, -⟩ := minuteStep_place moved
  have settles := pending.settles
  cases k with
  | zero => exact absurd moved (settles c')
  | succ k =>
    have ahead := pending.ahead.resolve_left (Nat.succ_ne_zero k)
    exact ⟨k, rfl, ahead _ (by omega), settles c' moved, Or.inr fun q from_le => ahead q (by omega)⟩

section
variable (proper : t.Proper) (rare : z.RarelyChanged)
  (inside : firstYear + yearLimit < Date.lastYear ∨ z.NoLateSetback)

include proper in
/-- In an earlier year than the last, an aim keeps two days from the end of the supported years. -/
theorem aim_inside {a : Aim} {w : WallTime} (aim : aim? t w = some a)
    (early : w.date.year < Date.lastYear) : a.wall.count + 172800 ≤ lastSecond := by
  have near := aim_near proper aim
  have shown := w.count_eq
  have := w.hour_lt
  have := w.minute_lt
  have := w.second_lt
  have before : ¬ Date.firstDay (12 * Date.lastYear) ≤ w.dayNumber := fun le =>
    absurd (Date.firstDay_le_iff_year.1 le) (Int.not_le.2 early)
  have stop : Date.firstDay (12 * Date.lastYear) = 95025872 := by decide
  unfold lastSecond
  omega

include proper rare inside in
/-- A jump over a gap goes to an instant from which on the clock never shows less than the aim. -/
theorem pending_of_gap {a : Aim} {u : Instant} (aim : aim? t (z.wallAt c.instant) = some a)
    (within : (z.wallAt c.instant).date.year ≤ firstYear + yearLimit)
    (gap : z.isInGap a.wall = true) (resolved : z.resolve? a.wall = some u) :
    Pending t z a.wall.count 4 ⟨u, false⟩ := by
  have ahead (q : Int) (from_le : u.seconds ≤ q) : a.wall.count ≤ q + z.offsetAt q := by
    refine Zone.le_reading_of_gap rare gap resolved ?_ from_le
    rcases inside with early | calm
    · have := aim_inside proper aim (by omega)
      exact Or.inl (by omega)
    · exact Or.inr calm
  exact ⟨ahead _ (Int.le_refl _), settlesWithin_four rare _, Or.inr ahead⟩

include proper rare inside in
/-- A jump to an aim ends at the instant that shows it, which is a full hour, or behind a gap. -/
theorem exists_pending_of_aim {a : Aim} {u : Instant} (aim : aim? t (z.wallAt c.instant) = some a)
    (within : (z.wallAt c.instant).date.year ≤ firstYear + yearLimit)
    (resolved : z.resolve? a.wall = some u) : ∃ j ≤ 4, Pending t z a.wall.count j ⟨u, false⟩ := by
  rcases Zone.resolve_eq_some resolved with shown | ⟨gap, -⟩
  · obtain ⟨nanos, wall, -⟩ := Zone.firstShowing_eq_some shown
    have full := (aim_ahead proper aim).2
    refine ⟨0, by omega, ?_, settles_of_fullHour rfl nanos ?_, Or.inl rfl⟩
    · exact Int.le_of_eq (congrArg WallTime.count wall.symm)
    · rw [wall]
      exact full
  · exact ⟨4, Nat.le_refl 4, pending_of_gap proper rare inside aim within gap resolved⟩

include proper rare inside in
/-- A step uses up a move by minutes, or goes on to a later hour for its aim. -/
theorem Pending.step (pending : Pending t z b k c) (moved : step t z firstYear c = .goOn c') :
    (∃ j, k = j + 1 ∧ Pending t z b j c') ∨ ∃ b' j, b / 3600 < b' / 3600 ∧ j ≤ 4 ∧ Pending t z b' j c' := by
  have within := within_of_step (by rw [moved]; simp)
  have later {a : Aim} (aim : aim? t (z.wallAt c.instant) = some a) : b / 3600 < a.wall.count / 3600 := by
    have := aim_ahead proper aim
    have := pending.reached
    omega
  rcases step_goOn proper moved with ⟨a, aim, -, resolved, touched⟩ | ⟨c₁, looks, moved⟩
  · obtain ⟨u, untouched⟩ := c'
    obtain rfl : untouched = false := touched
    obtain ⟨j, le, pending'⟩ := exists_pending_of_aim proper rare inside aim within resolved
    exact Or.inr ⟨_, j, later aim, le, pending'⟩
  · cases looks with
    | stands none => exact Or.inl (pending.minuteStep_goOn moved)
    | jumped aim supported resolved stays =>
      have gap := (staysInJumpedHour_iff.1 stays).1
      obtain ⟨j, four, pending'⟩ :=
        (pending_of_gap proper rare inside aim within gap resolved).minuteStep_goOn moved
      exact Or.inr ⟨_, j, later aim, by omega, pending'⟩

include proper rare inside in
/-- Each hour that is left for an aim allows five steps: the jump and four moves by minutes. -/
theorem iterate_of_pending {n : Nat} (pending : Pending t z b k c)
    (enough : 5 * (hourLimit firstYear - b / 3600).toNat + k < n) :
    iterate t z firstYear n c ≠ .goOn c' := by
  induction n generalizing b k c with
  | zero => omega
  | succ n ih =>
    rw [iterate]
    cases moved : Search.step t z firstYear c with
    | runs u => simp
    | giveUp => simp
    | goOn c₁ =>
      have lt := hour_lt_limit (within_of_step (by rw [moved]; simp))
      have reached := pending.reached
      rcases pending.step proper rare inside moved with ⟨j, rfl, pending'⟩ | ⟨b', j, later, le, pending'⟩
      · exact ih pending' (by omega)
      · exact ih pending' (by omega)

include proper rare in
/-- Where the clock shows no less than the last aim, in an earlier year than the last, no date that a step
takes is out of range. -/
theorem lacksDate_of_pending (early : firstYear + yearLimit < Date.lastYear) (pending : Pending t z b k c)
    (first : firstSecond ≤ b) : lacksDate t z firstYear c = false := by
  apply Bool.eq_false_iff.2
  intro lacks
  obtain ⟨within, a, aim, out | ⟨target, resolved, gap, out⟩⟩ := lacksDate_cases lacks
  all_goals
    have reached := pending.reached
    have inside := aim_inside proper aim (by omega)
    have later := (aim_ahead proper aim).1
    rw [isOutOfRange_iff] at out
  · omega
  · have reached := (pending_of_gap proper rare (Or.inl early) aim within gap resolved).reached
    obtain ⟨x, member, recent, before, seconds, -⟩ := Zone.exists_change_of_gap rare gap resolved
    have old := Zone.offsetAt_bounds rare (x.since - 1)
    have new := Zone.offsetAt_bounds rare target.seconds
    have count : (z.wallAt target).count = target.seconds + z.offsetAt target.seconds := rfl
    simp only at reached
    omega

end

/-! ## Whole searches -/

theorem iterate_add (n m : Nat) (c : Candidate) :
    iterate t z firstYear (n + m) c =
      match iterate t z firstYear n c with
      | .goOn c' => iterate t z firstYear m c'
      | outcome => outcome := by
  induction n generalizing c with
  | zero => rw [Nat.zero_add]; rfl
  | succ n ih =>
    rw [Nat.succ_add, iterate, iterate]
    cases Search.step t z firstYear c with
    | goOn c₁ => exact ih c₁
    | runs u => rfl
    | giveUp => rfl

/-- A candidate that comes back comes back again and again. -/
theorem iterate_of_cycle {i : Nat} (cycle : iterate t z firstYear i c = .goOn c) (n : Nat) :
    iterate t z firstYear (n * i) c = .goOn c := by
  induction n with
  | zero => rw [Nat.zero_mul]; rfl
  | succ n ih =>
    rw [Nat.succ_mul, iterate_add, ih]
    exact cycle

/-- A search comes to an end. -/
structure Ends (t : Timetable) (z : Zone) (start : Instant) : Prop where
  /-- After some steps, of which it may take more, it has found a run, given up or been broken off. -/
  stops : ∃ n < stepLimit, ∃ e,
    ∀ m, n ≤ m → ending? t z (z.wallAt start).date.year m ⟨start, true⟩ = some e
  /-- It is not broken off if it starts behind the first of the supported days, and more than the years that
  it covers before the last of the supported years. -/
  returns : (z.wallAt start).date.year + yearLimit < Date.lastYear → firstSecond + 86400 ≤ start.seconds →
    ¬ EndsWith t z start .breaksOff
  /-- No candidate on the way comes back. -/
  noReturn : ∀ n c, iterate t z (z.wallAt start).date.year n ⟨start, true⟩ = .goOn c →
    ∀ i, 0 < i → iterate t z (z.wallAt start).date.year i c ≠ .goOn c

/-- A search that does not go on after some number of steps visits no candidate twice. -/
theorem ne_goOn_of_iterate {start : Instant} {n : Nat}
    (ended : ∀ m, n ≤ m → ∀ c, iterate t z (z.wallAt start).date.year m ⟨start, true⟩ ≠ .goOn c) {m : Nat}
    (reached : iterate t z (z.wallAt start).date.year m ⟨start, true⟩ = .goOn c) {i : Nat} (some : 0 < i) :
    iterate t z (z.wallAt start).date.year i c ≠ .goOn c := by
  intro cycle
  refine ended (m + n * i) ?_ c ?_
  · have := Nat.le_mul_of_pos_right n some
    omega
  · rw [iterate_add, reached]
    exact iterate_of_cycle cycle n

/-- The first candidate has no aim yet. It takes the instant of its start, less a day, for one. -/
theorem pending_first (rare : z.RarelyChanged) (start : Instant) :
    Pending t z (start.seconds - 86400) 4 ⟨start, true⟩ := by
  have ahead (q : Int) (from_le : start.seconds ≤ q) : start.seconds - 86400 ≤ q + z.offsetAt q := by
    have := Zone.offsetAt_bounds rare q
    omega
  exact ⟨ahead _ (Int.le_refl _), settlesWithin_four rare _, Or.inr ahead⟩

section
variable (proper : t.Proper) (rare : z.RarelyChanged) {start : Instant}
include proper rare

/-- Five steps for each hour of the years that a search covers are enough for it. -/
theorem iterate_start_ne_goOn
    (inside : (z.wallAt start).date.year + yearLimit < Date.lastYear ∨ z.NoLateSetback) {m : Nat}
    (le : 402015 ≤ m) (c : Candidate) :
    iterate t z (z.wallAt start).date.year m ⟨start, true⟩ ≠ .goOn c := by
  have left := hours_left (Zone.offsetAt_bounds rare start.seconds)
  exact iterate_of_pending proper rare inside (pending_first rare start) (by omega)

theorem exists_ending_of_start
    (inside : (z.wallAt start).date.year + yearLimit < Date.lastYear ∨ z.NoLateSetback) :
    ∃ e, ∀ m, 402015 ≤ m → ending? t z (z.wallAt start).date.year m ⟨start, true⟩ = some e := by
  obtain ⟨e, ends⟩ := exists_ending (iterate_start_ne_goOn proper rare inside (Nat.le_refl _))
  exact ⟨e, fun m le => ending_mono ends le⟩

/-- A search that stays inside the supported days is not broken off. -/
theorem not_breaksOff_of_inside (early : (z.wallAt start).date.year + yearLimit < Date.lastYear)
    (late : firstSecond + 86400 ≤ start.seconds) : ¬ EndsWith t z start .breaksOff := by
  rintro ⟨n, ends⟩
  refine ending_ne_breaksOff (fun c => ∃ b k, firstSecond ≤ b ∧ Pending t z b k c) ?_ ?_ ?_ ends
  · rintro c ⟨b, k, le, pending⟩
    exact lacksDate_of_pending proper rare early pending le
  · rintro c c' ⟨b, k, le, pending⟩ moved
    rcases pending.step proper rare (Or.inl early) moved with ⟨j, -, pending'⟩ | ⟨b', j, later, -, pending'⟩
    · exact ⟨b, j, le, pending'⟩
    · exact ⟨b', j, by omega, pending'⟩
  · exact ⟨_, 4, by omega, pending_first rare start⟩

end

end CronCalendar.Search

namespace CronCalendar.Schedule
set_option autoImplicit false

open Search

variable {s : Schedule} {z : Zone}

/-- Every search comes to an end, but for those that start in the last years that are supported, in a zone
whose clock is put back in the last two days of these: there, a search can stand still
(`lastNoon_stands_still`). -/
theorem search_ends (satisfiable : s.isSatisfiable = true) (rare : z.RarelyChanged) (start : Instant)
    (inside : (z.wallAt start).date.year + yearLimit < Date.lastYear ∨ z.NoLateSetback) :
    Search.Ends s.timetable z start := by
  have proper := timetable_proper satisfiable
  constructor
  case stops =>
    obtain ⟨e, ends⟩ := exists_ending_of_start proper rare inside
    exact ⟨402015, by decide, e, ends⟩
  case returns => exact fun early late => not_breaksOff_of_inside proper rare early late
  case noReturn =>
    exact fun n c reached i some =>
      ne_goOn_of_iterate (fun m le => iterate_start_ne_goOn proper rare inside le) reached some

/-- From the second of the supported days on, and until the years of a search leave the supported ones, what
is answered is the next run. -/
theorem answer_eq_nextRun (s : Schedule) (rare : z.RarelyChanged) {now : Instant}
    (late : firstSecond + 86400 ≤ now.seconds)
    (early : (z.wallAt now).date.year + yearLimit < Date.lastYear) :
    s.answer z now = .ok (s.nextRun z now) := by
  cases satisfiable : s.isSatisfiable with
  | false => exact answer_of_unsatisfiable satisfiable
  | true =>
    have proper := timetable_proper satisfiable
    obtain ⟨e, ends⟩ := exists_ending_of_start proper rare (Or.inl early)
    refine answer_of_told satisfiable (ends stepLimit (by decide)) ?_
    rintro rfl
    exact not_breaksOff_of_inside proper rare early late ⟨_, ends _ (Nat.le_refl _)⟩

/-- In coordinated universal time it always is. -/
theorem answer_utc (s : Schedule) (now : Instant) :
    s.answer Zone.utc now = .ok (s.nextRun Zone.utc now) := by
  cases satisfiable : s.isSatisfiable with
  | false => exact answer_of_unsatisfiable satisfiable
  | true =>
    have calm : Zone.utc.NoLateSetback := fun _ member => nomatch member
    obtain ⟨e, ends⟩ := exists_ending_of_start (timetable_proper satisfiable) (by decide) (Or.inr calm)
    refine answer_of_told satisfiable (ends stepLimit (by decide)) ?_
    rintro rfl
    refine ending_ne_breaksOff (fun _ => True) (fun c _ => ?_) (fun _ _ _ _ => trivial) trivial
      (ends stepLimit (by decide))
    apply Bool.eq_false_iff.2
    intro lacks
    have told (u : Instant) : ¬ isOutOfRange Zone.utc u = true := by
      have := u.firstSecond_le
      have := u.le_lastSecond
      rw [isOutOfRange_iff, Zone.wallAt_utc]
      simp only
      omega
    obtain ⟨-, -, -, out | ⟨target, -, -, out⟩⟩ := lacksDate_cases lacks
    · exact told _ out
    · exact told _ out

/-- In Newfoundland, the search for midnight from the second pass of an hour goes back to the first one, and
comes to an end. -/
theorem everyMidnight_ends :
    everyMidnight.isSatisfiable = true ∧ Zone.stJohns.RarelyChanged ∧
      ∃ start back : Instant, back < start ∧
        step everyMidnight.timetable Zone.stJohns (Zone.stJohns.wallAt start).date.year ⟨start, true⟩ =
          .goOn ⟨back, false⟩ ∧
        Search.Ends everyMidnight.timetable Zone.stJohns start := by
  have satisfiable : everyMidnight.isSatisfiable = true := by decide +kernel
  have named : Zone.named? "America/St_Johns" = some Zone.stJohns := by decide +kernel
  have rare := (Zone.clearAtFirst_of_named named).rare
  refine ⟨satisfiable, rare, ⟨972788400, 0, by decide, by decide, by decide⟩,
    ⟨972786600, 0, by decide, by decide, by decide⟩, by decide, by decide +kernel, ?_⟩
  exact search_ends satisfiable rare _ (Or.inr (Zone.noLateSetback_of_named named))

/-- A zone whose clock is put back by twelve hours on the last day that is supported. -/
def lateSetback : Zone :=
  .ofTable "Late setback" [⟨-39600, "A"⟩, ⟨-82800, "B"⟩] [(8210266812000, 1)] (by decide)

/-- Noon of that day. -/
def lastNoon : Instant := ⟨8210266833600, 0, by decide, by decide, by decide⟩

/-- In that zone, one o'clock of the last day comes behind the last instant, and the search for it is moved
to noon over and over. West of Greenwich, the search from the first instant for midnight is broken off, since
the clock still shows the day before the first that is supported. -/
theorem lastNoon_stands_still :
    ((daily 1).isSatisfiable = true ∧ lateSetback.RarelyChanged ∧ ∀ n,
      ending? (daily 1).timetable lateSetback (lateSetback.wallAt lastNoon).date.year n ⟨lastNoon, true⟩ =
        none) ∧
    ∃ z start, Zone.named? "Etc/GMT+5" = some z ∧ z.RarelyChanged ∧ start.seconds = firstSecond ∧
      everyMidnight.isSatisfiable = true ∧ EndsWith everyMidnight.timetable z start .breaksOff := by
  have told (untouched : Bool) : lacksDate (daily 1).timetable lateSetback 262142 ⟨lastNoon, untouched⟩ =
      false := by
    revert untouched
    decide +kernel
  have moved (untouched : Bool) : step (daily 1).timetable lateSetback 262142 ⟨lastNoon, untouched⟩ =
      .goOn ⟨lastNoon, false⟩ := by
    revert untouched
    decide +kernel
  have year : (lateSetback.wallAt lastNoon).date.year = 262142 := by decide +kernel
  have goesOn (n : Nat) (untouched : Bool) :
      ending? (daily 1).timetable lateSetback 262142 n ⟨lastNoon, untouched⟩ = none := by
    induction n generalizing untouched with
    | zero => rfl
    | succ n ih =>
      rw [ending_succ, told, moved]
      exact ih false
  refine ⟨⟨daily_satisfiable (by decide), by decide, fun n => year ▸ goesOn n true⟩, ?_⟩
  have named : Zone.named? "Etc/GMT+5" = some (.fixed "Etc/GMT+5" ⟨-18000, "-05"⟩) := by decide +kernel
  exact ⟨_, ⟨firstSecond, 0, by decide, by decide, by decide⟩, named, by decide, rfl, by decide +kernel, 1,
    by decide +kernel⟩

end CronCalendar.Schedule
