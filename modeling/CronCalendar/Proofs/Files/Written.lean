import CronCalendar.Files.Tree

/-!
# What was written is read

A path leads to a file through directories only, and no file is written in the place of a directory.
So the path of a file that was written still leads to where it led (`locate_put`), and what is found
there is the text that was written (`find_of_write`).
-/

namespace CronCalendar.Tree
set_option autoImplicit false

variable {t t' : Tree} {place other start : List String} {names : List String} {path text : String}
  {e : Entry}

/-- An entry changes what stands at its place and nothing else. -/
theorem entry?_put (free : t.entry? place ≠ some .directory) :
    Tree.entry? (t.put place e) other = if other = place then some e else t.entry? other := by
  unfold entry? put
  rw [List.lookup_cons]
  by_cases eq : other = place
  · subst eq
    have inside : ¬(other = ["/"] ∨ (other.all (· = "..")) = true) := fun fixed =>
      free (if_pos fixed)
    rw [if_neg inside, if_pos rfl, beq_self_eq_true]
  · rw [if_neg eq, beq_eq_false_iff_ne.2 eq]

/-- Names lead through directories past any place that is none. -/
theorem descend_put (free : t.entry? place ≠ some .directory)
    (found : t.descend start names = .ok other) :
    (t.put place e).descend start names = .ok other := by
  induction names generalizing start with
  | nil => exact found
  | cons name rest ih =>
    rw [descend] at found ⊢
    split at found
    · cases found
    · rename_i short
      rw [if_neg short]
      dsimp only at found ⊢
      split at found
      · rename_i through
        have apart : Path.step start name ≠ place := fun eq => free (eq ▸ through)
        rw [entry?_put free, if_neg apart, through]
        exact ih found
      · cases found
      · cases found

theorem locate_put (free : t.entry? place ≠ some .directory) (found : t.locate path = .ok other) :
    (t.put place e).locate path = .ok other := by
  rw [locate] at found ⊢
  split at found
  · cases found
  · dsimp only at found ⊢
    cases down : t.descend [] (Path.parts path).dropLast with
    | error cause => rw [down] at found; cases found
    | ok inner =>
      rw [down] at found
      rw [descend_put free down]
      exact found

/-- A text is written where its path leads, unless a directory stands there or the path or its last
name does not suit a file. -/
theorem write_cases (written : t.write path text = .ok t') :
    ∃ place, t.locate path = .ok place ∧ t.entry? place ≠ some .directory ∧
      isLongPlace place = false ∧ (Path.endsInSlash path || Path.endsInDot path) = false ∧
      t' = t.put place (.file text) := by
  rw [write] at written
  cases located : t.locate path with
  | error cause => rw [located] at written; cases written
  | ok place =>
    simp only [located, bind, Except.bind] at written
    have free : t.entry? place ≠ some .directory := by
      intro directory
      rw [directory] at written
      cases written
    split at written
    · rename_i directory
      exact absurd directory free
    · split at written
      · cases written
      · rename_i slash
        split at written
        · cases written
        · rename_i short
          split at written
          · cases written
          · rename_i dot
            refine ⟨place, rfl, free, eq_false_of_ne_true short, ?_, (Except.ok.inj written).symm⟩
            simpa [eq_false_of_ne_true dot] using slash

/-- What was written is found at its path. -/
theorem find_of_write (written : t.write path text = .ok t') : t'.find path = .ok (.file text) := by
  obtain ⟨place, located, free, short, plain, rfl⟩ := write_cases written
  rw [find, locate_put free located]
  simp only [bind, Except.bind, short, entry?_put free, if_pos, plain]
  rfl

theorem present_of_write (written : t.write path text = .ok t') : t'.present path = true := by
  rw [present, find_of_write written]
  rfl

theorem read_of_write (written : t.write path text = .ok t') : t'.read path = .ok text := by
  rw [read, find_of_write written]
  rfl

end CronCalendar.Tree
