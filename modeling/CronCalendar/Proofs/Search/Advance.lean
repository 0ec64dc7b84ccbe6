import CronCalendar.Proofs.Search.Endings
import CronCalendar.Proofs.Zone.RareChanges

/-!
# Whether the search advances

Wherever a search looks at the minutes, it finds its run in the minute of the candidate or behind
it, so a run is late enough as long as every move goes to a minute that is still ahead. Two kinds of
moves can fail to: a jump to a full hour that the clock has shown before it was put back, and a move to
the next minute across a transition that is no full minute. `TurnsBack` collects them. Where they do not
happen, each step goes past its candidate (`lt_minuteStart_of_step`), so runs are found behind the start
(`lt_of_run`), and the search comes to an end (`exists_ending_of_straight`).
-/

namespace CronCalendar
set_option autoImplicit false

/-- The second at which the minute that the clock shows would have begun. -/
def Zone.minuteStart (z : Zone) (t : Instant) : Int := t.seconds - (z.wallAt t).second

namespace Search

/-- A move from an instant that does not get past it: to a full hour later on the clock, or to the next
minute. -/
inductive TurnsBack (z : Zone) (c : Instant) : Prop
  | jump {w : WallTime} {u : Instant} (full : w.count % 3600 = 0) (supported : w.isSupported = true)
      (later : (z.wallAt c).count < w.count) (resolved : z.resolve? w = some u)
      (back : z.minuteStart u ≤ c.seconds)
  | minute {v u : Instant} (start : startOfMinute? z c = some v) (next : addMinutes? v 1 = some u)
      (back : z.minuteStart u ≤ c.seconds)

/-- A candidate is the start of the search, or stands in a minute behind it. -/
def Ahead (z : Zone) (now : Instant) (c : Candidate) : Prop :=
  c = ⟨now, true⟩ ∨ c.untouched = false ∧ now.seconds < z.minuteStart c.instant

variable {t : Timetable} {z : Zone} {firstYear : Int} {a now u : Instant} {b c c' : Candidate}

theorem minuteStart_bounds (z : Zone) (t : Instant) :
    z.minuteStart t ≤ t.seconds ∧ t.seconds < z.minuteStart t + 60 := by
  have := (z.wallAt t).second_lt
  unfold Zone.minuteStart
  omega

theorem Ahead.le (ahead : Ahead z now c) (le : a ≤ now) :
    now.seconds ≤ c.instant.seconds ∧ a ≤ c.instant := by
  rcases ahead with rfl | ⟨-, behind⟩
  · exact ⟨Int.le_refl _, le⟩
  · have := minuteStart_bounds z c.instant
    refine ⟨by omega, ?_⟩
    rw [Instant.le_iff, Instant.lt_iff] at *
    omega

variable (straight : ∀ c : Instant, a ≤ c → ¬ TurnsBack z c)

/-- What begins behind an instant of that time belongs to it as well. -/
theorem le_of_lt_minuteStart (le : a ≤ now) (later : now.seconds < z.minuteStart u) : a ≤ u := by
  have := minuteStart_bounds z u
  rw [Instant.le_iff, Instant.lt_iff] at *
  omega

section
include straight

/-- A jump to an aim gets past the candidate. -/
theorem lt_minuteStart_of_aim (proper : t.Proper) (le : a ≤ c.instant) {m : Aim} {target : Instant}
    (aim : aim? t (z.wallAt c.instant) = some m) (supported : m.wall.isSupported = true)
    (resolved : z.resolve? m.wall = some target) : c.instant.seconds < z.minuteStart target := by
  obtain ⟨later, full⟩ := aim_ahead proper aim
  apply Int.not_le.1
  intro back
  exact straight c.instant le (.jump full supported later resolved back)

/-- A move by minutes does as well. -/
theorem lt_minuteStart_of_minuteStep (le : a ≤ c.instant) (moved : minuteStep t z c = .goOn c') :
    c'.untouched = false ∧ c.instant.seconds < z.minuteStart c'.instant := by
  obtain ⟨touched, start, found, moved⟩ := minuteStep_goOn moved
  obtain ⟨seconds, -⟩ := startOfMinute_eq_some.1 found
  have bounds := minuteStart_bounds z c'.instant
  have second := (z.wallAt c.instant).second_lt
  have minute := (z.wallAt start).minute_lt
  have one : ∀ {u}, addMinutes? start 1 = some u → c.instant.seconds < z.minuteStart u := by
    intro u next
    apply Int.not_le.1
    intro back
    exact straight c.instant le (.minute found next back)
  refine ⟨touched, ?_⟩
  rcases moved with ⟨-, -, next⟩ | ⟨-, next⟩
  · exact one next
  · by_cases last : (z.wallAt start).minute = 59
    · exact one (by rw [last] at next; exact next)
    · have := (addMinutes_eq_some.1 next).1
      omega

/-- So each step gets past its candidate. -/
theorem lt_minuteStart_of_step (proper : t.Proper) (le : a ≤ c.instant)
    (moved : step t z firstYear c = .goOn c') :
    c'.untouched = false ∧ c.instant.seconds < z.minuteStart c'.instant := by
  rcases step_goOn proper moved with ⟨m, aim, supported, resolved, touched⟩ | ⟨b, looks, moved⟩
  · exact ⟨touched, lt_minuteStart_of_aim straight proper le aim supported resolved⟩
  · cases looks with
    | stands none => exact lt_minuteStart_of_minuteStep straight le moved
    | @jumped n h target aim supported resolved stays =>
      have jump := lt_minuteStart_of_aim straight proper le aim supported resolved
      obtain ⟨touched, later⟩ := lt_minuteStart_of_minuteStep (c := ⟨target, false⟩) straight
        (le_of_lt_minuteStart le jump) moved
      have := minuteStart_bounds z target
      simp only at later
      exact ⟨touched, by omega⟩

end

/-- A run that is found by the minutes is behind the start. -/
theorem Ahead.minuteStep_runs (ahead : Ahead z now c) (found : minuteStep t z c = .runs u) : now < u := by
  obtain ⟨start, start_eq, -, first, moved⟩ := Search.minuteStep_runs found
  obtain ⟨seconds, -⟩ := startOfMinute_eq_some.1 start_eq
  obtain ⟨seconds', -⟩ := addMinutes_eq_some.1 moved
  rw [Instant.lt_iff]
  rcases ahead with rfl | ⟨-, behind⟩
  · have := first rfl
    have := (z.wallAt now).second_lt
    simp only at seconds
    omega
  · unfold Zone.minuteStart at behind
    omega

variable (le : a ≤ now)
include straight le

theorem Ahead.looks (proper : t.Proper) (ahead : Ahead z now c) (looks : Looks t z c b) :
    Ahead z now b := by
  cases looks with
  | stands none => exact ahead
  | jumped aim supported resolved stays =>
    obtain ⟨behind, from_le⟩ := ahead.le le
    have := lt_minuteStart_of_aim straight proper from_le aim supported resolved
    exact Or.inr ⟨rfl, by simp only; omega⟩

theorem Ahead.step (proper : t.Proper) (ahead : Ahead z now c)
    (moved : step t z firstYear c = .goOn c') : Ahead z now c' := by
  obtain ⟨behind, from_le⟩ := ahead.le le
  obtain ⟨touched, later⟩ := lt_minuteStart_of_step straight proper from_le moved
  exact Or.inr ⟨touched, by omega⟩

/-- A run that a search comes to is behind its start. -/
theorem lt_of_iterate (proper : t.Proper) {n : Nat}
    (found : iterate t z firstYear n ⟨now, true⟩ = .runs u) : now < u := by
  obtain ⟨last, ahead, runs⟩ := exists_last_step (Ahead z now)
    (fun _ _ ahead moved => ahead.step straight le proper moved) (Or.inl rfl) found
  obtain ⟨b, looks, found⟩ := step_runs proper runs
  exact (ahead.looks straight le proper looks).minuteStep_runs found

/-- Where no move turns back, a run is behind the start of its search. -/
theorem lt_of_run (proper : t.Proper) (found : run? t z now = some u) : now < u :=
  lt_of_iterate straight le proper (run_eq_some.1 found)

omit le in
/-- Where no move turns back, the search comes to an end: each step leaves fewer seconds. -/
theorem exists_ending_of_straight (proper : t.Proper) {n : Nat} (le : a ≤ c.instant)
    (enough : lastSecond < c.instant.seconds + n) : ∃ e, ending? t z firstYear n c = some e := by
  induction n generalizing c with
  | zero =>
    have := c.instant.le_lastSecond
    omega
  | succ n ih =>
    rw [ending_succ]
    split
    · exact ⟨_, rfl⟩
    cases moved : Search.step t z firstYear c with
    | goOn c' =>
      obtain ⟨-, later⟩ := lt_minuteStart_of_step straight proper le moved
      have := minuteStart_bounds z c'.instant
      exact ih (le_of_lt_minuteStart le later) (by omega)
    | runs v => exact ⟨_, rfl⟩
    | giveUp => exact ⟨_, rfl⟩

end Search
end CronCalendar
