import CronCalendar.Field.Values

/-!
# Progressions

What a term of a field expression stands for: numbers that begin at the first one and go on at a
constant distance up to a limit. A step thins a progression out by widening the distance.
`mem_values` says which numbers a progression has, and `values_everyNth` that thinning out a
progression keeps those of its values whose positions the step divides.
-/

namespace CronCalendar.Field
set_option autoImplicit false

/-- The numbers from `first` to `limit` at the distance `step`; none if `limit` is below `first`. -/
structure Progression where
  first : Nat
  limit : Nat
  step : Nat
  step_pos : 0 < step
  deriving DecidableEq, Repr

namespace Progression

/-- The numbers from `lo` to `hi`, both included. -/
def interval (lo hi : Nat) : Progression := ⟨lo, hi, 1, Nat.one_pos⟩

/-- One number. -/
def single (n : Nat) : Progression := interval n n

/-- The numbers at the positions 0, `n`, 2 `n` and so on. -/
def everyNth (p : Progression) (n : Nat) (hn : 0 < n) : Progression :=
  ⟨p.first, p.limit, p.step * n, Nat.mul_pos p.step_pos hn⟩

/-- How many numbers a progression has. -/
def length (p : Progression) : Nat := (p.limit + p.step - p.first) / p.step

/-- The numbers of a progression as a set. -/
def values (p : Progression) : Values :=
  ⟨List.range' p.first p.length p.step, List.pairwise_lt_range' _ p.step_pos⟩

theorem lt_length_iff {p : Progression} {i : Nat} :
    i < p.length ↔ p.first + p.step * i ≤ p.limit := by
  have hs := p.step_pos
  have split : p.step * (i + 1) = p.step * i + p.step := Nat.mul_succ _ _
  rw [length, ← Nat.succ_le_iff, Nat.le_div_iff_mul_le hs, Nat.mul_comm, Nat.succ_eq_add_one, split]
  omega

theorem getElem?_values {p : Progression} {i m : Nat} :
    p.values.toList[i]? = some m ↔ m = p.first + p.step * i ∧ m ≤ p.limit := by
  constructor
  · intro h
    obtain ⟨hi, hm⟩ := List.getElem?_eq_some_iff.1 h
    have hl : i < p.length := by simpa [values] using hi
    have hm : p.first + p.step * i = m := by simpa [values] using hm
    exact ⟨hm.symm, hm ▸ lt_length_iff.1 hl⟩
  · rintro ⟨rfl, hl⟩
    exact List.getElem?_range' (lt_length_iff.2 hl)

/-- A progression has the numbers at multiples of its distance from its first one, up to its
limit. -/
theorem mem_values {p : Progression} {m : Nat} :
    m ∈ p.values ↔ ∃ i, m = p.first + p.step * i ∧ m ≤ p.limit := by
  have h : m ∈ p.values ↔ ∃ i, p.values.toList[i]? = some m := List.mem_iff_getElem?
  simp only [h, getElem?_values]

/-- Widening the distance keeps the values at the positions that the step divides. -/
theorem values_everyNth (p : Progression) (n : Nat) (hn : 0 < n) :
    (p.everyNth n hn).values = p.values.everyNth n := by
  refine Values.ext_mem fun m => ?_
  rw [mem_values, Values.mem_everyNth]
  constructor
  · rintro ⟨j, hm, hl⟩
    refine ⟨n * j, Nat.mul_mod_right n j, getElem?_values.2 ⟨?_, hl⟩⟩
    rw [hm, everyNth, Nat.mul_assoc]
  · rintro ⟨i, hi, hm⟩
    obtain ⟨j, rfl⟩ := Nat.dvd_of_mod_eq_zero hi
    obtain ⟨hm, hl⟩ := getElem?_values.1 hm
    refine ⟨j, ?_, hl⟩
    rw [hm, everyNth, Nat.mul_assoc]

end Progression

end CronCalendar.Field
