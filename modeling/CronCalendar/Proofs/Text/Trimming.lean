import CronCalendar.Text.Blank
import Mathlib.Data.List.DropRight

/-!
# Trimming

A text stays as it is when it is trimmed exactly if it neither starts nor ends with a blank
(`trim_eq_self_iff`); what trimming leaves is such a text, and blanks put around a text are what
trimming takes away.
-/

namespace CronCalendar.Text
set_option autoImplicit false

theorem trimEnd_eq_rdropWhile (s : List Char) : trimEnd s = s.rdropWhile isBlank := rfl

theorem trim_eq_self_iff {s : List Char} :
    trim s = s ↔ (∀ c ∈ s.head?, isBlank c = false) ∧ ∀ c ∈ s.getLast?, isBlank c = false := by
  constructor
  · intro h
    have short : (trimStart s).length = s.length := by
      have start := (List.dropWhile_suffix (l := s) isBlank).length_le
      have whole := (List.rdropWhile_prefix isBlank (trimStart s)).length_le
      rw [← trimEnd_eq_rdropWhile, ← trim, h] at whole
      exact Nat.le_antisymm start whole
    have start : trimStart s = s := (List.dropWhile_suffix isBlank).eq_of_length short
    refine ⟨fun c hc => ?_, fun c hc => ?_⟩
    · have first := List.head?_dropWhile_not isBlank s
      rw [← trimStart, start, Option.mem_def.1 hc] at first
      exact first
    · obtain ⟨front, rfl⟩ := List.getLast?_eq_some_iff.1 hc
      rw [trim, start, trimEnd_eq_rdropWhile, List.rdropWhile_concat] at h
      split at h
      · have longer := (List.rdropWhile_prefix isBlank front).length_le
        rw [h, List.length_append, List.length_singleton] at longer
        omega
      · rename_i notBlank
        exact Bool.eq_false_iff.2 notBlank
  · rintro ⟨first, last⟩
    have start : trimStart s = s := by
      cases s with
      | nil => rfl
      | cons c rest => exact List.dropWhile_cons_of_neg (by simp [first c rfl])
    rw [trim, start]
    cases s using List.reverseRecOn with
    | nil => rfl
    | append_singleton front c =>
      have notBlank : isBlank c = false := last c (by simp)
      exact List.rdropWhile_concat_neg isBlank front c (by simp [notBlank])

/-- A text without any blanks stays as it is. -/
theorem trim_of_no_blanks {s : List Char} (h : ∀ c ∈ s, isBlank c = false) : trim s = s :=
  trim_eq_self_iff.2
    ⟨fun c hc => h c (List.mem_of_head? hc), fun c hc => h c (List.mem_of_getLast? hc)⟩

/-- Trimming a second time changes nothing. -/
theorem trim_trim (s : List Char) : trim (trim s) = trim s := by
  refine trim_eq_self_iff.2 ⟨fun c hc => ?_, fun c hc => ?_⟩
  · -- What is left of the end is a front of what is left of the start, with the same first character.
    obtain ⟨rest, split⟩ := List.rdropWhile_prefix isBlank (trimStart s)
    have first := List.head?_dropWhile_not isBlank s
    rw [← trimStart, ← split, List.head?_append, ← trimEnd_eq_rdropWhile, ← trim,
      Option.mem_def.1 hc] at first
    exact first
  · have last := List.rdropWhile_last_not isBlank (trimStart s)
    rw [← trimEnd_eq_rdropWhile, ← trim] at last
    obtain ⟨front, split⟩ := List.getLast?_eq_some_iff.1 hc
    have nonempty : trim s ≠ [] := by simp [split]
    have notBlank := last nonempty
    rw [List.getLast_eq_iff_getLast?_eq_some nonempty |>.2 hc] at notBlank
    exact Bool.eq_false_iff.2 notBlank

/-- Blanks around a text do not count. -/
theorem trim_surrounded {before after : List Char} (t : List Char)
    (blankBefore : ∀ c ∈ before, isBlank c = true) (blankAfter : ∀ c ∈ after, isBlank c = true) :
    trim (before ++ t ++ after) = trim t := by
  have start : trimStart (before ++ t ++ after) = trimStart (t ++ after) := by
    rw [List.append_assoc]
    exact List.dropWhile_append_of_pos blankBefore
  have nothing : trimStart after = [] := List.dropWhile_eq_nil_iff.2 blankAfter
  rw [trim, start, trim]
  unfold trimStart at *
  rw [List.dropWhile_append]
  split
  · rename_i empty
    rw [nothing, List.isEmpty_iff.1 empty]
  · unfold trimEnd
    rw [List.reverse_append,
      List.dropWhile_append_of_pos fun c hc => blankAfter c (List.mem_reverse.1 hc)]

theorem trimmed_trimmed (s : String) : trimmed (trimmed s) = trimmed s := by
  rw [trimmed, trimmed, String.toList_ofList, trim_trim]

end CronCalendar.Text
