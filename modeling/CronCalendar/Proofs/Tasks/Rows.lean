import CronCalendar.Proofs.Search.Termination
import CronCalendar.Tasks.Context

/-!
# Rows and the clock

A listing asks the clock once for each enabled task, so that which reading a row gets depends on the rows
before it (`turns`, `rowsBy_eq_mapM`). It consists of the rows, or is broken off by the search for the next
run of an enabled task (`list_cases`). No search breaks it off while the clock keeps away from the ends of
the supported years (`list_of_keepsAway`).
-/

namespace CronCalendar
set_option autoImplicit false

/-- A clock never shows an instant in the first of the supported days, nor one from which the years of a
search leave the supported ones. -/
def Clock.KeepsAway (clock : Clock) (z : Zone) : Prop :=
  ∀ n, firstSecond + 86400 ≤ (clock.reading n).seconds ∧
    (z.wallAt (clock.reading n)).date.year + Search.yearLimit < Date.lastYear

namespace Tasks

/-! ## Turns -/

section
variable {α β : Type} {enabled : α → Bool} {clock : Clock} {x : α} {xs : List α}

/-- Entries, each with what the clock shows when its row is made: it is asked again behind each enabled
one. -/
def turns (enabled : α → Bool) : Clock → List α → List (Instant × α)
  | _, [] => []
  | clock, x :: xs => (clock.now, x) :: turns enabled (if enabled x then clock.asked else clock) xs

/-- What does not depend on the clock is mapped as without one. -/
theorem map_turns {γ : Type} {g : Instant × α → γ} {h : α → γ} (same : ∀ now x, g (now, x) = h x) :
    (turns enabled clock xs).map g = xs.map h := by
  induction xs generalizing clock with
  | nil => rfl
  | cons x xs ih => rw [turns, List.map_cons, List.map_cons, same, ih]

theorem mem_of_turns {q : Instant × α} (member : q ∈ turns enabled clock xs) : q.2 ∈ xs := by
  have mapped : q.2 ∈ (turns enabled clock xs).map Prod.snd := List.mem_map.2 ⟨q, member, rfl⟩
  rwa [map_turns (h := id) fun _ _ => rfl, List.map_id] at mapped

theorem exists_turn (member : x ∈ xs) : ∃ now, (now, x) ∈ turns enabled clock xs := by
  have listed : x ∈ (turns enabled clock xs).map Prod.snd := by
    rwa [map_turns (h := id) fun _ _ => rfl, List.map_id]
  obtain ⟨⟨now, _⟩, turn, rfl⟩ := List.mem_map.1 listed
  exact ⟨now, turn⟩

/-- A clock that has stopped shows every entry the same. -/
theorem turns_fixed (now : Instant) : turns enabled (.fixed now) xs = xs.map (now, ·) := by
  induction xs with
  | nil => rfl
  | cons x xs ih =>
    rw [turns, show (if enabled x then (Clock.fixed now).asked else .fixed now) = .fixed now from ite_self _,
      ih]
    rfl

theorem turns_congr {enabled' : α → Bool} (same : ∀ x ∈ xs, enabled' x = enabled x) :
    turns enabled' clock xs = turns enabled clock xs := by
  induction xs generalizing clock with
  | nil => rfl
  | cons x xs ih =>
    rw [turns, turns, same x List.mem_cons_self, ih fun y mem => same y (List.mem_cons_of_mem _ mem)]

variable {f g : α → Except Error β}

theorem mapM_congr (same : ∀ x ∈ xs, f x = g x) : xs.mapM f = xs.mapM g := by
  induction xs with
  | nil => rfl
  | cons x xs ih =>
    rw [List.mapM_cons, List.mapM_cons, same x List.mem_cons_self,
      ih fun y mem => same y (List.mem_cons_of_mem _ mem)]

theorem mapM_ok {g : α → β} (ok : ∀ x ∈ xs, f x = .ok (g x)) : xs.mapM f = .ok (xs.map g) := by
  induction xs with
  | nil => rfl
  | cons x xs ih =>
    rw [List.mapM_cons, ok x List.mem_cons_self, ih fun y mem => ok y (List.mem_cons_of_mem _ mem)]
    rfl

theorem exists_mapM_ok_iff : (∃ ys, xs.mapM f = .ok ys) ↔ ∀ x ∈ xs, ∃ y, f x = .ok y := by
  induction xs with
  | nil => simp [pure, Except.pure]
  | cons x xs ih =>
    rw [List.forall_mem_cons, ← ih, List.mapM_cons]
    cases f x with
    | error e => simp [bind, Except.bind]
    | ok y => cases xs.mapM f <;> simp [bind, Except.bind, pure, Except.pure]

end

/-! ## Rows -/

section
variable {α : Type} {enabled : α → Bool} {name : α → String} {xs : List α} {clock : Clock}
  {ids : List String} {row row' : Instant → String → Except Error TaskRow}

/-- Rows are made one by one, if they tell which of the entries are enabled. -/
theorem rowsBy_eq_mapM
    (flags : ∀ x ∈ xs, ∀ now r, row now (name x) = .ok r → r.enabled = enabled x) :
    rowsBy row clock (xs.map name) = (turns enabled clock xs).mapM fun q => row q.1 (name q.2) := by
  induction xs generalizing clock with
  | nil => rfl
  | cons x xs ih =>
    rw [List.map_cons, rowsBy, turns, List.mapM_cons]
    cases made : row clock.now (name x) with
    | error e => rfl
    | ok r =>
      have flag := flags x List.mem_cons_self _ _ made
      have rest (clock : Clock) : rowsBy row clock (xs.map name) =
          (turns enabled clock xs).mapM fun q => row q.1 (name q.2) :=
        ih fun y member => flags y (List.mem_cons_of_mem _ member)
      simp only [bind, Except.bind, flag, rest]

/-- Rows that are the same one by one, or broken off, are the same together, or broken off. -/
theorem rowsBy_cases {p : Error → Prop}
    (each : ∀ now id, row' now id = row now id ∨ ∃ e, row' now id = .error e ∧ p e) :
    rowsBy row' clock ids = rowsBy row clock ids ∨ ∃ e, rowsBy row' clock ids = .error e ∧ p e := by
  induction ids generalizing clock with
  | nil => exact .inl rfl
  | cons id ids ih =>
    rw [rowsBy, rowsBy]
    rcases each clock.now id with same | ⟨e, failed, broken⟩
    · rw [same]
      cases row clock.now id with
      | error e => exact .inl rfl
      | ok r =>
        simp only [bind, Except.bind]
        rcases @ih (if r.enabled then clock.asked else clock) with later | ⟨e, failed, broken⟩
        · exact .inl (by rw [later])
        · exact .inr ⟨e, by rw [failed], broken⟩
    · exact .inr ⟨e, by rw [failed]; rfl, broken⟩

theorem rowsBy_congr (same : ∀ n id, row' (clock.reading n) id = row (clock.reading n) id) :
    rowsBy row' clock ids = rowsBy row clock ids := by
  induction ids generalizing clock with
  | nil => rfl
  | cons id ids ih =>
    have first : row' clock.now id = row clock.now id := same 0 id
    have later (r : TaskRow) : rowsBy row' (if r.enabled then clock.asked else clock) ids =
        rowsBy row (if r.enabled then clock.asked else clock) ids := by
      split
      · exact ih fun n => same (n + 1)
      · exact ih same
    simp only [rowsBy, first, later]

end

variable {k : Tasks} {taskId : String} {now : Instant} {clock : Clock} {r : TaskRow}

/-- The row of a task is made if the search for its next run is answered, where it is enabled. -/
theorem answeredRow_of_answer
    (answered : ∀ s, k.effective taskId = .ok s → k.registry.isEnabled s = true →
      ∃ next, s.answer k.zone now = .ok next) :
    k.answeredRow now taskId = k.row now taskId := by
  rw [answeredRow]
  cases found : k.effective taskId with
  | error e =>
    rw [Tasks.row, found]
    rfl
  | ok s =>
    simp only [bind, Except.bind]
    split
    · rename_i enabled
      obtain ⟨next, ok⟩ := answered s found enabled
      rw [ok]
    · rfl

/-- What a search is not answered with breaks it off. -/
theorem answer_cases (s : Schedule) (z : Zone) (now : Instant) :
    (∃ next, s.answer z now = .ok next) ∨ ∃ e, s.answer z now = .error e ∧ e.isBreak = true := by
  rw [Schedule.answer]
  split
  · split
    · exact .inl ⟨_, rfl⟩
    · exact .inl ⟨_, rfl⟩
    · exact .inr ⟨_, rfl, rfl⟩
    · exact .inr ⟨_, rfl, rfl⟩
  · exact .inl ⟨_, rfl⟩

/-- A row is made as if searches were never broken off, or it is broken off by one. -/
theorem answeredRow_cases (k : Tasks) (now : Instant) (taskId : String) :
    k.answeredRow now taskId = k.row now taskId ∨
      ∃ e, k.answeredRow now taskId = .error e ∧ e.isBreak = true := by
  by_cases broken : ∃ s e, k.effective taskId = .ok s ∧ k.registry.isEnabled s = true ∧
      s.answer k.zone now = .error e ∧ e.isBreak = true
  · obtain ⟨s, e, found, enabled, failed, isBreak⟩ := broken
    refine .inr ⟨e, ?_, isBreak⟩
    simp only [answeredRow, found, enabled, failed, if_pos, bind, Except.bind]
  · refine .inl (answeredRow_of_answer fun s found enabled => ?_)
    refine (answer_cases s k.zone now).resolve_right fun ⟨e, failed, isBreak⟩ => ?_
    exact broken ⟨s, e, found, enabled, failed, isBreak⟩

theorem row_of_answeredRow (made : k.answeredRow now taskId = .ok r) : k.row now taskId = .ok r := by
  rcases answeredRow_cases k now taskId with same | ⟨e, failed, -⟩
  · rw [← same, made]
  · rw [failed] at made
    cases made

/-- A listing consists of the rows, or is broken off. -/
theorem list_cases (k : Tasks) (clock : Clock) :
    k.list clock = k.rows clock ∨ ∃ e, k.list clock = .error e ∧ e.isBreak = true :=
  rowsBy_cases (answeredRow_cases k)

/-- It is not broken off while the clock keeps away from the ends of the supported years. -/
theorem list_of_keepsAway (rare : k.zone.RarelyChanged) (away : clock.KeepsAway k.zone) :
    k.list clock = k.rows clock :=
  rowsBy_congr fun n _ => answeredRow_of_answer fun s _ _ =>
    ⟨_, Schedule.answer_eq_nextRun s rare (away n).1 (away n).2⟩

end Tasks

end CronCalendar
