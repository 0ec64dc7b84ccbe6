import CronCalendar.Text.NameMap

/-!
# What maps from names hold

A map from names is what `get?` says of it: `get?_insert`, `get?_erase` and `get?_map` tell what it
says after each operation, and two maps that say the same are equal (`ext_get?`).
-/

namespace CronCalendar.NameMap
set_option autoImplicit false

variable {α β : Type} {m k : NameMap α} {name other : String} {a : α}

/-- In ascending entries, the one for a name is the first with that name. -/
theorem lookup_eq_some_iff {ps : List (String × α)} (ascending : ps.Pairwise fun p q => p.1 < q.1) :
    ps.lookup name = some a ↔ (name, a) ∈ ps := by
  induction ps with
  | nil => simp
  | cons p rest ih =>
    obtain ⟨first, b⟩ := p
    rw [List.pairwise_cons] at ascending
    rw [List.lookup_cons, List.mem_cons, Prod.mk.injEq]
    split
    · rename_i eq
      obtain rfl := eq_of_beq eq
      have others : (name, a) ∉ rest := fun mem =>
        String.lt_irrefl name (ascending.1 (name, a) mem)
      simp only [others, or_false, true_and, Option.some.injEq]
      exact eq_comm
    · rename_i ne
      rw [ih ascending.2, or_iff_right fun h => ne_of_beq_false ne h.1]

theorem get?_eq_some_iff : m.get? name = some a ↔ (name, a) ∈ m.entries :=
  lookup_eq_some_iff m.ascending

@[simp] theorem get?_empty (name : String) : (empty : NameMap α).get? name = none := rfl

/-- After an insertion, a name has the inserted entry or the one it had. -/
theorem mem_insertEntry_iff {ps : List (String × α)} (ascending : ps.Pairwise fun p q => p.1 < q.1)
    {p : String × α} :
    p ∈ insertEntry name a ps ↔ p = (name, a) ∨ p ∈ ps ∧ p.1 ≠ name := by
  induction ps with
  | nil => simp [insertEntry]
  | cons q rest ih =>
    rw [List.pairwise_cons] at ascending
    have apart {r : String × α} (mem : r ∈ rest) : r.1 ≠ q.1 := fun eq =>
      String.lt_irrefl _ (eq ▸ ascending.1 r mem)
    simp only [insertEntry]
    split
    · rename_i lt
      have behind {r : String × α} (mem : r ∈ q :: rest) : r.1 ≠ name := by
        rintro rfl
        rcases List.mem_cons.1 mem with rfl | mem
        · exact String.lt_irrefl _ lt
        · exact String.lt_irrefl _ (String.lt_trans lt (ascending.1 r mem))
      rw [List.mem_cons, and_iff_left_of_imp behind]
    · split
      · rename_i eq
        grind
      · rename_i ne
        grind

theorem get?_insert : (m.insert name a).get? other = if other = name then some a else m.get? other := by
  apply Option.ext
  intro b
  rw [get?_eq_some_iff, insert, mem_insertEntry_iff m.ascending]
  split
  · simp_all [eq_comm]
  · simp_all [get?_eq_some_iff]

theorem get?_erase : (m.erase name).get? other = if other = name then none else m.get? other := by
  apply Option.ext
  intro b
  rw [get?_eq_some_iff, erase, List.mem_filter]
  split
  · simp_all
  · simp_all [get?_eq_some_iff]

theorem get?_map {f : String → α → β} : (m.map f).get? name = (m.get? name).map (f name) := by
  apply Option.ext
  intro b
  rw [get?_eq_some_iff, map, List.mem_map, Option.map_eq_some_iff]
  constructor
  · rintro ⟨p, mem, eq⟩
    cases eq
    exact ⟨p.2, get?_eq_some_iff.2 mem, rfl⟩
  · rintro ⟨a, held, rfl⟩
    exact ⟨(name, a), get?_eq_some_iff.1 held, rfl⟩

/-- Two maps that hold the same are equal. -/
theorem ext_get? (h : ∀ name, m.get? name = k.get? name) : m = k := by
  have distinct (m : NameMap α) : m.entries.Nodup :=
    m.ascending.imp (S := (· ≠ ·)) fun lt eq => String.lt_irrefl _ (eq ▸ lt)
  have same : m.entries.Perm k.entries := by
    rw [List.perm_ext_iff_of_nodup (distinct m) (distinct k)]
    intro p
    rw [← get?_eq_some_iff, ← get?_eq_some_iff, h]
  obtain ⟨ps, ascending⟩ := m
  obtain ⟨qs, ascending'⟩ := k
  congr 1
  exact same.eq_of_pairwise (fun p q _ _ lt lt' => absurd (String.lt_trans lt lt') (String.lt_irrefl _))
    ascending ascending'

theorem mem_values_iff : a ∈ m.values ↔ ∃ name, m.get? name = some a := by
  rw [values, List.mem_map]
  constructor
  · rintro ⟨p, mem, rfl⟩
    exact ⟨p.1, get?_eq_some_iff.2 mem⟩
  · rintro ⟨name, held⟩
    exact ⟨(name, a), get?_eq_some_iff.1 held, rfl⟩

end CronCalendar.NameMap
