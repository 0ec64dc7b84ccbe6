import CronCalendar.Text.Blank
import CronCalendar.Text.Decimal
import Mathlib.Algebra.Group.Nat.Defs

/-!
# Digits

What is written for a number consists of digits, as many as the number needs or as many as its
place is wide, and a reader that takes a numeral from the front of a text stops behind them
(`read_append`). Digits are no blanks.

Like every run of characters of one kind, a numeral is complete where the text ends or goes on with
a character of another kind (`Text.EndsRun`).
-/

namespace CronCalendar
set_option autoImplicit false

namespace Text

/-- The text does not go on with a character of some kind. -/
def EndsRun (kind : Char → Bool) (s : List Char) : Prop := ∀ c ∈ s.head?, kind c = false

variable {kind : Char → Bool}

theorem endsRun_nil : EndsRun kind [] := fun _ h => nomatch h

theorem endsRun_cons {c : Char} (h : kind c = false) (s : List Char) : EndsRun kind (c :: s) :=
  fun _ hd => Option.mem_some.1 hd ▸ h

theorem takeWhile_run {cs s : List Char} (all : ∀ c ∈ cs, kind c = true) (ends : EndsRun kind s) :
    (cs ++ s).takeWhile kind = cs := by
  rw [List.takeWhile_append_of_pos all]
  cases s with
  | nil => rw [List.takeWhile_nil, List.append_nil]
  | cons c s => rw [List.takeWhile_cons_of_neg (by simp [ends c rfl]), List.append_nil]

theorem dropWhile_run {cs s : List Char} (all : ∀ c ∈ cs, kind c = true) (ends : EndsRun kind s) :
    (cs ++ s).dropWhile kind = s := by
  rw [List.dropWhile_append_of_pos all]
  cases s with
  | nil => rfl
  | cons c s => rw [List.dropWhile_cons_of_neg (by simp [ends c rfl])]

theorem isBlank_of_isDigit {c : Char} (h : c.isDigit = true) : isBlank c = false := by
  have bounds : 48 ≤ c.toNat ∧ c.toNat ≤ 57 := by
    simpa [Char.isDigit, UInt32.le_iff_toNat_le] using h
  apply Bool.eq_false_iff.2
  intro blank
  obtain ⟨r, member, within⟩ := isBlank_iff.1 blank
  simp only [blankRanges, List.mem_cons, List.not_mem_nil, or_false] at member
  rcases member with rfl | rfl | rfl | rfl | rfl | rfl | rfl | rfl | rfl | rfl <;> omega

end Text

namespace Decimal

theorem isDigit_digitChar {n : Nat} (h : n < 10) : (Nat.digitChar n).isDigit = true := by
  have cases : n = 0 ∨ n = 1 ∨ n = 2 ∨ n = 3 ∨ n = 4 ∨ n = 5 ∨ n = 6 ∨ n = 7 ∨ n = 8 ∨ n = 9 := by
    omega
  rcases cases with rfl | rfl | rfl | rfl | rfl | rfl | rfl | rfl | rfl | rfl <;> rfl

theorem isDigit_of_mem_digits {n : Nat} {c : Char} (h : c ∈ digits n) : c.isDigit = true := by
  fun_induction digits n with
  | case1 n lt => exact List.mem_singleton.1 h ▸ isDigit_digitChar lt
  | case2 n ge ih =>
    rcases List.mem_append.1 h with h | h
    · exact ih h
    · exact List.mem_singleton.1 h ▸ isDigit_digitChar (Nat.mod_lt n (by decide))

theorem digits_ne_nil (n : Nat) : digits n ≠ [] := by
  unfold digits
  split <;> simp

/-- A number below a power of ten has at most as many digits as the exponent says. -/
theorem length_digits_le {width n : Nat} (positive : 0 < width) (h : n < 10 ^ width) :
    (digits n).length ≤ width := by
  induction width generalizing n with
  | zero => exact absurd positive (Nat.lt_irrefl 0)
  | succ width ih =>
    unfold digits
    split
    · simp
    · rename_i ge
      have wide : 0 < width := by
        apply Nat.pos_of_ne_zero
        rintro rfl
        omega
      have less : n / 10 < 10 ^ width := by
        rw [Nat.div_lt_iff_lt_mul (by decide)]
        exact h
      have := ih wide less
      rw [List.length_append, List.length_singleton]
      omega

theorem value_cons_zero (ds : List Char) : value ('0' :: ds) = value ds := rfl

theorem value_replicate_zero (k : Nat) (ds : List Char) :
    value (List.replicate k '0' ++ ds) = value ds := by
  induction k with
  | zero => rfl
  | succ k ih => rw [List.replicate_succ, List.cons_append, value_cons_zero, ih]

/-- Zeros behind a numeral multiply its value. -/
theorem value_append_zeros (ds : List Char) (k : Nat) :
    value (ds ++ List.replicate k '0') = value ds * 10 ^ k := by
  induction k with
  | zero => simp
  | succ k ih =>
    have zero : digitValue '0' = 0 := rfl
    rw [List.replicate_succ', ← List.append_assoc, value_append_singleton, ih, zero, Nat.add_zero,
      Nat.mul_comm 10, Nat.mul_assoc, ← Nat.pow_succ]

/-- Reading a padded number gives the number back. -/
theorem value_padded (width n : Nat) : value (padded width n) = n := by
  rw [padded, value_replicate_zero, value_digits]

theorem isDigit_of_mem_padded {width n : Nat} {c : Char} (h : c ∈ padded width n) :
    c.isDigit = true := by
  rcases List.mem_append.1 h with h | h
  · exact (List.mem_replicate.1 h).2 ▸ rfl
  · exact isDigit_of_mem_digits h

/-- A number that fits its place fills it. -/
theorem length_padded {width n : Nat} (positive : 0 < width) (h : n < 10 ^ width) :
    (padded width n).length = width := by
  have := length_digits_le positive h
  rw [padded, List.length_append, List.length_replicate]
  omega

theorem le_length_padded (width n : Nat) : width ≤ (padded width n).length := by
  rw [padded, List.length_append, List.length_replicate]
  omega

/-- A numeral at the front of a text is read up to its end, if a numeral may be as long and the
text goes on with something else or the numeral may be no longer. -/
theorem read_append {least most : Nat} {ds rest : List Char} (all : ∀ c ∈ ds, c.isDigit = true)
    (enough : least ≤ ds.length) (fits : ds.length ≤ most)
    (ends : ds.length = most ∨ Text.EndsRun Char.isDigit rest) :
    read? least most (ds ++ rest) = some (value ds, rest) := by
  have front : ((ds ++ rest).take most).takeWhile Char.isDigit = ds := by
    rw [List.take_append, List.take_of_length_le fits]
    apply Text.takeWhile_run all
    rcases ends with full | stops
    · rw [full, Nat.sub_self, List.take_zero]
      exact Text.endsRun_nil
    · intro c hc
      rw [List.head?_take] at hc
      split at hc
      · cases hc
      · exact stops c hc
  simp only [read?, front, if_neg (Nat.not_lt.2 enough), List.drop_left]

end Decimal

end CronCalendar
