import CronCalendar.Schedule.NextRun
import CronCalendar.Proofs.Schedule.NamedDays

/-!
# Sequences of runs

A next run that is not the sentinel is one that the search found for a proper timetable
(`run_of_nextRun`). What holds between an instant and the run that follows it, and carries over from
one run to the next, holds between any two members of a list of runs (`pairwise_nextRuns`).
-/

namespace CronCalendar.Schedule
set_option autoImplicit false

variable {s : Schedule} {z : Zone}

/-- A schedule that has a next run at all can run, and the search has found that run. -/
theorem run_of_nextRun {now : Instant} (h : s.nextRun z now ≠ never) :
    s.timetable.Proper ∧ Search.run? s.timetable z now = some (s.nextRun z now) := by
  unfold nextRun at *
  split at h
  · rename_i satisfiable
    refine ⟨timetable_proper satisfiable, ?_⟩
    rw [if_pos satisfiable]
    cases found : Search.run? s.timetable z now with
    | none => simp [found] at h
    | some u => rfl
  · exact absurd rfl h

theorem nextRun_of_run {now u : Instant} (satisfiable : s.isSatisfiable = true)
    (found : Search.run? s.timetable z now = some u) : s.nextRun z now = u := by
  rw [nextRun, if_pos satisfiable, found]
  rfl

theorem nextRuns_succ (now : Instant) (n : Nat) :
    s.nextRuns z now (n + 1) =
      if s.nextRun z now = never then []
      else s.nextRun z now :: s.nextRuns z (s.nextRun z now) n := by
  simp [nextRuns, isNever]

/-- A longer list of runs goes on from the last run of the shorter one. -/
theorem nextRuns_add (now : Instant) (n m : Nat) :
    s.nextRuns z now (n + m) =
      s.nextRuns z now n ++ s.nextRuns z ((s.nextRuns z now n).getLastD now) m := by
  induction n generalizing now with
  | zero => rw [Nat.zero_add]; rfl
  | succ n ih =>
    rw [Nat.succ_add, nextRuns_succ, nextRuns_succ]
    split
    · rename_i stops
      cases m with
      | zero => rfl
      | succ m => rw [List.getLastD_nil, nextRuns_succ, if_pos stops]; rfl
    · rw [List.getLastD_cons, List.cons_append, ih]

/-- Each member of a list of runs is the next run behind some instant. -/
theorem exists_nextRun_of_mem {now t : Instant} {n : Nat} (member : t ∈ s.nextRuns z now n) :
    ∃ v, s.nextRun z v = t ∧ t ≠ never := by
  induction n generalizing now with
  | zero => cases member
  | succ n ih =>
    rw [nextRuns_succ] at member
    split at member
    · cases member
    · rename_i found
      rcases List.mem_cons.1 member with rfl | later
      · exact ⟨now, rfl, found⟩
      · exact ih later

/-- A relation between each instant and its next run that chains holds along the whole list. -/
theorem pairwise_nextRuns (start : Instant → Prop) (r : Instant → Instant → Prop)
    (trans : ∀ a b c, r a b → r b c → r a c)
    (next : ∀ now, start now → s.nextRun z now ≠ never →
      r now (s.nextRun z now) ∧ start (s.nextRun z now))
    (n : Nat) {now : Instant} (first : start now) :
    (now :: s.nextRuns z now n).Pairwise r := by
  induction n generalizing now with
  | zero => exact List.pairwise_singleton r now
  | succ n ih =>
    rw [nextRuns_succ]
    split
    · exact List.pairwise_singleton r now
    · rename_i found
      obtain ⟨step, start'⟩ := next now first found
      have later := ih start'
      apply List.pairwise_cons.2
      refine ⟨?_, later⟩
      intro t ht
      rcases List.mem_cons.1 ht with rfl | behind
      · exact step
      · exact trans _ _ _ step ((List.pairwise_cons.1 later).1 t behind)

end CronCalendar.Schedule
