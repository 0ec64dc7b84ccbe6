import CronCalendar.Field.Expr
import CronCalendar.Proofs.Field.Members

/-!
# The bounds of evaluated fields

Whatever a field stores, the values it evaluates to are values of the calendar
(`Kind.evaluate_within`). For texts the scanner carries the invariant `Scan.Within`: each number it
has taken was checked against the bounds, and a step only thins out what stands before it. The
weekday 7 is taken away when Sundays are folded.
-/

namespace CronCalendar.Field
set_option autoImplicit false

/-- Every number of a progression lies within some bounds. -/
def Progression.Within (p : Progression) (b : Bounds) : Prop :=
  b.least ≤ p.first ∧ p.limit ≤ b.greatest

/-- What has been read of a term names only numbers within the bounds. -/
def Cursor.Within (b : Bounds) : Cursor → Prop
  | .start => True
  | .literal n => b.least ≤ n ∧ n ≤ b.greatest
  | .members p => p.Within b
  | .rangeFrom n => b.least ≤ n ∧ n ≤ b.greatest
  | .stepOf p => p.Within b

/-- What has been read of an expression names only numbers within the bounds. -/
structure Scan.Within (b : Bounds) (s : Scan) : Prop where
  finished : ∀ p ∈ s.finished, p.Within b
  cursor : s.cursor.Within b

theorem Cursor.Within.next {b : Bounds} {c c' : Cursor} {token : Token} (within : c.Within b)
    (h : c.next? b token = some c') : c'.Within b := by
  unfold Cursor.next? at h
  split at h
  · rename_i n
    split at h
    · cases h
    · rename_i inside
      have bounds : b.least ≤ n ∧ n ≤ b.greatest := by omega
      split at h
      · cases h; exact bounds
      · cases h; exact ⟨within.1, bounds.2⟩
      · split at h
        · cases h; exact within
        · cases h
      · cases h
      · cases h
  · cases h; exact ⟨Nat.le_refl _, Nat.le_refl _⟩
  · cases h; exact within
  · cases h; exact ⟨within.1, Nat.le_refl _⟩
  · cases h; exact within
  · cases h

theorem Cursor.Within.finish {b : Bounds} {c : Cursor} {terms : List Progression}
    (within : c.Within b) (h : c.finish? = some terms) : ∀ p ∈ terms, p.Within b := by
  intro p hp
  cases c with
  | start => cases h; cases hp
  | literal n => cases h; rw [List.mem_singleton.1 hp]; exact within
  | members q => cases h; rw [List.mem_singleton.1 hp]; exact within
  | rangeFrom n => cases h
  | stepOf q => cases h

theorem Scan.Within.next {b : Bounds} {s s' : Scan} {token : Token} (within : s.Within b)
    (h : s.next? b token = some s') : s'.Within b := by
  unfold Scan.next? at h
  split at h
  · obtain ⟨terms, ends, rfl⟩ := Option.map_eq_some_iff.1 h
    refine ⟨fun p hp => ?_, trivial⟩
    rcases List.mem_append.1 hp with hp | hp
    · exact within.cursor.finish ends p hp
    · exact within.finished p hp
  · obtain ⟨cursor, moves, rfl⟩ := Option.map_eq_some_iff.1 h
    exact ⟨within.finished, within.cursor.next moves⟩

theorem Scan.Within.run {b : Bounds} {s s' : Scan} {tokens : List Token} (within : s.Within b)
    (h : s.run? b tokens = some s') : s'.Within b := by
  induction tokens generalizing s with
  | nil => cases h; exact within
  | cons token rest ih =>
    obtain ⟨next, first, h⟩ := Option.bind_eq_some_iff.1 h
    exact ih (within.next first) h

theorem terms_within {expression : String} {b : Bounds} {terms : List Progression}
    (h : terms? expression b = some terms) : ∀ p ∈ terms, p.Within b := by
  obtain ⟨tokens, _, h⟩ := Option.bind_eq_some_iff.1 h
  obtain ⟨scan, run, h⟩ := Option.bind_eq_some_iff.1 h
  obtain ⟨last, ends, rfl⟩ := Option.map_eq_some_iff.1 h
  have initial : Scan.initial.Within b := ⟨fun p hp => (List.not_mem_nil hp).elim, trivial⟩
  have within := initial.run run
  intro p hp
  rcases List.mem_append.1 hp with hp | hp
  · exact within.cursor.finish ends p hp
  · exact within.finished p hp

/-- The values of an expression lie within the bounds it was evaluated against. -/
theorem evaluate_within {expression : String} {b : Bounds} {n : Nat}
    (h : n ∈ evaluate expression b) : b.least ≤ n ∧ n ≤ b.greatest := by
  unfold evaluate at h
  split at h
  · rename_i terms found
    obtain ⟨v, hv, h⟩ := Values.mem_unionAll.1 h
    obtain ⟨p, hp, rfl⟩ := List.mem_map.1 hv
    obtain ⟨i, rfl, le⟩ := Progression.mem_values.1 h
    have within := terms_within found p hp
    exact ⟨Nat.le_trans within.1 (Nat.le_add_right _ _), Nat.le_trans le within.2⟩
  · exact (List.not_mem_nil h).elim

theorem tokens_star : tokens? "*" = some [.star] := by
  have trimmed : Text.trim "*".toList = ['*'] := by decide
  rw [tokens?, trimmed]
  simp [tokensOf?, sign?]

/-- A star is every value within the bounds. -/
theorem mem_evaluate_star {b : Bounds} {n : Nat} :
    n ∈ evaluate "*" b ↔ b.least ≤ n ∧ n ≤ b.greatest := by
  refine ⟨evaluate_within, fun h => ?_⟩
  have terms : terms? "*" b = some [Progression.interval b.least b.greatest] := by
    simp [terms?, tokens_star, Scan.run?, Scan.initial, Scan.next?, Cursor.next?, Scan.terms?,
      Cursor.finish?]
  simp only [evaluate, terms]
  refine Values.mem_unionAll.2 ⟨_, List.mem_cons_self, Progression.mem_values.2 ?_⟩
  exact ⟨n - b.least, by simp only [Progression.interval]; omega, h.2⟩

theorem getLast_eq_seven_iff {v : Values} (within : ∀ n ∈ v, n ≤ 7) :
    v.toList.getLast? = some 7 ↔ 7 ∈ v := by
  refine ⟨List.mem_of_getLast?, fun h => ?_⟩
  obtain ⟨last, hlast⟩ := Option.isSome_iff_exists.1 (List.getLast?_isSome.2 (List.ne_nil_of_mem h))
  obtain ⟨front, split⟩ := List.getLast?_eq_some_iff.1 hlast
  have most : last ≤ 7 := within last (List.mem_of_getLast? hlast)
  have sorted := v.ascending
  have member : 7 ∈ v.toList := h
  rw [split] at sorted member
  rcases List.mem_append.1 member with early | here
  · have : 7 < last := (List.pairwise_append.1 sorted).2.2 7 early last List.mem_cons_self
    omega
  · rw [hlast, List.mem_singleton.1 here]

/-- Folding leaves the weekdays as they are, except that 7 stands for Sunday. -/
theorem mem_foldSunday {v : Values} (within : ∀ n ∈ v, n ≤ 7) {n : Nat} :
    n ∈ foldSunday v ↔ n < 7 ∧ (n ∈ v ∨ n = 0 ∧ 7 ∈ v) := by
  unfold foldSunday
  have last := getLast_eq_seven_iff within
  split
  · rename_i h
    rw [Values.mem_union, Values.mem_singleton, Values.mem_filter]
    have seven := last.1 h
    constructor
    · rintro (rfl | ⟨hn, ne⟩)
      · exact ⟨by omega, Or.inr ⟨rfl, seven⟩⟩
      · have := within n hn
        have : n ≠ 7 := by simpa using ne
        exact ⟨by omega, Or.inl hn⟩
    · rintro ⟨lt, hn | ⟨rfl, _⟩⟩
      · exact Or.inr ⟨hn, by simp; omega⟩
      · exact Or.inl rfl
  · rename_i h
    have seven : 7 ∉ v := fun hv => h (last.2 hv)
    constructor
    · intro hn
      have := within n hn
      have : n ≠ 7 := fun e => seven (e ▸ hn)
      exact ⟨by omega, Or.inl hn⟩
    · rintro ⟨_, hn | ⟨_, h7⟩⟩
      · exact hn
      · exact absurd h7 seven

/-- The values of a field are values of the calendar. -/
theorem Kind.evaluate_within {kind : Kind} {e : Expr} {n : Nat} (h : n ∈ kind.evaluate e) :
    kind.calendarBounds.least ≤ n ∧ n ≤ kind.calendarBounds.greatest := by
  obtain ⟨v, hv, named⟩ : ∃ v : Values,
      kind.evaluate e = (if kind = .dayOfWeek then foldSunday v else v) ∧
        ∀ m ∈ v, kind.expressionBounds.least ≤ m ∧ m ≤ kind.expressionBounds.greatest := by
    cases e with
    | any => exact ⟨_, rfl, fun m hm => Field.evaluate_within hm⟩
    | values w => exact ⟨_, rfl, fun m hm => (Values.mem_within.1 hm).2⟩
    | text s => exact ⟨_, rfl, fun m hm => Field.evaluate_within hm⟩
  rw [hv] at h
  cases kind with
  | dayOfWeek =>
    have := ((mem_foldSunday fun m hm => (named m hm).2).1 h).1
    exact ⟨Nat.zero_le _, Nat.le_of_lt_succ this⟩
  | minute => exact named n h
  | hour => exact named n h
  | day => exact named n h
  | month => exact named n h

/-- A field that is not restricted has every value of the calendar. -/
theorem Kind.mem_evaluate_any {kind : Kind} {n : Nat} :
    n ∈ kind.evaluate .any ↔
      kind.calendarBounds.least ≤ n ∧ n ≤ kind.calendarBounds.greatest := by
  refine ⟨Kind.evaluate_within, fun h => ?_⟩
  cases kind with
  | dayOfWeek =>
    have named : ∀ m ∈ Field.evaluate "*" ⟨0, 7⟩, m ≤ 7 := fun m hm => (mem_evaluate_star.1 hm).2
    have lt : n < 7 := Nat.lt_succ_of_le h.2
    exact (mem_foldSunday named).2 ⟨lt, Or.inl (mem_evaluate_star.2 ⟨Nat.zero_le n, by simp only; omega⟩)⟩
  | minute => exact mem_evaluate_star.2 h
  | hour => exact mem_evaluate_star.2 h
  | day => exact mem_evaluate_star.2 h
  | month => exact mem_evaluate_star.2 h

theorem Kind.evaluate_any_nonempty (kind : Kind) : (kind.evaluate .any).isEmpty = false := by
  rw [Values.isEmpty_eq_false_iff]
  exact ⟨kind.calendarBounds.least,
    mem_evaluate_any.2 ⟨Nat.le_refl _, by cases kind <;> decide⟩⟩

theorem Expr.eq_any {e : Expr} (any : e.isAny = true) : e = .any := by
  cases e with
  | any => rfl
  | values v => cases any
  | text s => cases any

end CronCalendar.Field
