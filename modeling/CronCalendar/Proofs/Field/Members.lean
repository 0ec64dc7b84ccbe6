import CronCalendar.Field.Values

/-!
# Members of value sets

Membership in the sets that the operations on `Values` build, and what `Values.nextFrom` says
about membership. `nextFrom_cases` is the specification that the search relies on; the lemmas
behind it are the three ways in which the search uses it: it stands still exactly at a member, and
the numbers it passes over are no members, whether it wraps or not.
-/

namespace CronCalendar
set_option autoImplicit false

namespace Values

theorem eq_of_toList {v w : Values} (h : v.toList = w.toList) : v = w := by
  cases v
  cases w
  cases h
  rfl

theorem contains_iff {v : Values} {n : Nat} : v.contains n = true ↔ n ∈ v := by
  simp [contains, Membership.mem]

theorem isEmpty_eq_false_iff {v : Values} : v.isEmpty = false ↔ ∃ n, n ∈ v := by
  rw [isEmpty, List.isEmpty_eq_false_iff_exists_mem]
  rfl

theorem exists_greatest {v : Values} (nonempty : v.isEmpty = false) : ∃ n ∈ v, ∀ m ∈ v, m ≤ n := by
  obtain ⟨k, member⟩ := isEmpty_eq_false_iff.1 nonempty
  obtain ⟨n, greatest⟩ := Option.isSome_iff_exists.1 (List.isSome_max?_of_mem member)
  exact ⟨n, List.max?_eq_some_iff.1 greatest⟩

theorem mem_filter {v : Values} {p : Nat → Bool} {n : Nat} :
    n ∈ v.filter p ↔ n ∈ v ∧ p n = true := List.mem_filter

theorem mem_within {v : Values} {lo hi n : Nat} :
    n ∈ v.within lo hi ↔ n ∈ v ∧ lo ≤ n ∧ n ≤ hi := by
  rw [within, mem_filter, Bool.and_eq_true, decide_eq_true_eq, decide_eq_true_eq]

theorem mem_singleton {m n : Nat} : n ∈ singleton m ↔ n = m := List.mem_singleton

theorem mem_unionAll {vs : List Values} {n : Nat} : n ∈ unionAll vs ↔ ∃ v ∈ vs, n ∈ v := by
  induction vs with
  | nil => exact ⟨fun h => (List.not_mem_nil h).elim, fun ⟨_, h, _⟩ => (List.not_mem_nil h).elim⟩
  | cons v vs ih =>
    have split : unionAll (v :: vs) = v.union (unionAll vs) := rfl
    rw [split, mem_union, ih]
    simp

/-- What the search asks of a set that has members: the least of them from a number on, or, when
all of them come before it, the least of all. -/
theorem nextFrom_cases {v : Values} (nonempty : v.isEmpty = false) (n : Nat) :
    v.nextFrom n ∈ v ∧
      ((n ≤ v.nextFrom n ∧ ∀ m ∈ v, n ≤ m → v.nextFrom n ≤ m) ∨
        (v.nextFrom n < n ∧ ∀ m ∈ v, v.nextFrom n ≤ m ∧ m < n)) := by
  obtain ⟨list, sorted⟩ := v
  unfold nextFrom
  split
  · rename_i found h
    obtain ⟨here, before, after, rfl, passed⟩ := List.find?_eq_some_iff_append.1 h
    have here : n ≤ found := by simpa using here
    refine ⟨List.mem_append_right before List.mem_cons_self, Or.inl ⟨here, fun m hm le => ?_⟩⟩
    rcases List.mem_append.1 hm with early | late
    · have := passed m early
      simp at this
      omega
    · rcases List.mem_cons.1 late with rfl | late
      · exact Nat.le_refl _
      · exact Nat.le_of_lt ((List.pairwise_cons.1 (List.pairwise_append.1 sorted).2.1).1 m late)
  · rename_i h
    have passed : ∀ m ∈ list, m < n := by simpa using h
    cases list with
    | nil => cases nonempty
    | cons first rest =>
      refine ⟨List.mem_cons_self, Or.inr ⟨passed first List.mem_cons_self, fun m hm => ?_⟩⟩
      refine ⟨?_, passed m hm⟩
      rcases List.mem_cons.1 hm with rfl | hm
      · exact Nat.le_refl _
      · exact Nat.le_of_lt ((List.pairwise_cons.1 sorted).1 m hm)

theorem nextFrom_mem {v : Values} (nonempty : v.isEmpty = false) (n : Nat) : v.nextFrom n ∈ v :=
  (nextFrom_cases nonempty n).1

/-- The search stands still exactly at the members. -/
theorem nextFrom_eq_self_iff {v : Values} (nonempty : v.isEmpty = false) {n : Nat} :
    v.nextFrom n = n ↔ n ∈ v := by
  obtain ⟨member, ⟨_, least⟩ | ⟨before, all⟩⟩ := nextFrom_cases nonempty n
  · exact ⟨fun h => h ▸ member, fun h => Nat.le_antisymm (least n h (Nat.le_refl n)) ‹_›⟩
  · exact ⟨fun h => by omega, fun h => absurd (all n h).2 (Nat.lt_irrefl n)⟩

/-- When all members lie behind, the search starts over with the least. -/
theorem nextFrom_of_all_lt {v : Values} (nonempty : v.isEmpty = false) {n : Nat}
    (behind : ∀ m ∈ v, m < n) : v.nextFrom n = v.nextFrom 0 := by
  obtain ⟨member, ⟨ahead, -⟩ | ⟨-, least⟩⟩ := nextFrom_cases nonempty n
  · have := behind _ member
    omega
  obtain ⟨member', ⟨-, least'⟩ | ⟨before, -⟩⟩ := nextFrom_cases nonempty 0
  · exact Nat.le_antisymm (least _ member').1 (least' _ member (Nat.zero_le _))
  · omega

/-- From a number up to which no member is passed, the search finds the same. -/
theorem nextFrom_of_none_between {v : Values} (nonempty : v.isEmpty = false) {n k : Nat} (le : n ≤ k)
    (none : ∀ m ∈ v, n ≤ m → k ≤ m) : v.nextFrom k = v.nextFrom n := by
  obtain ⟨member, ⟨ahead, least⟩ | ⟨wraps, all⟩⟩ := nextFrom_cases nonempty n
  · obtain ⟨member', ⟨ahead', least'⟩ | ⟨wraps', all'⟩⟩ := nextFrom_cases nonempty k
    · exact Nat.le_antisymm (least' _ member (none _ member ahead))
        (least _ member' (Nat.le_trans le ahead'))
    · exact absurd (all' _ member).2 (Nat.not_lt.2 (none _ member ahead))
  · obtain ⟨member', ⟨ahead', -⟩ | ⟨-, all'⟩⟩ := nextFrom_cases nonempty k
    · exact absurd (all _ member').2 (Nat.not_lt.2 (Nat.le_trans le ahead'))
    · exact Nat.le_antisymm (all' _ member).1 (all _ member').1

/-- No member lies between a number and the one that is found from it. -/
theorem not_mem_of_lt_nextFrom {v : Values} (nonempty : v.isEmpty = false) {n m : Nat}
    (from_le : n ≤ m) (lt : m < v.nextFrom n) : m ∉ v := by
  intro hm
  obtain ⟨_, ⟨_, least⟩ | ⟨before, _⟩⟩ := nextFrom_cases nonempty n
  · exact absurd (least m hm from_le) (by omega)
  · omega

/-- When the number found lies behind, no member lies ahead and none before it. -/
theorem not_mem_of_nextFrom_lt {v : Values} (nonempty : v.isEmpty = false) {n m : Nat}
    (wraps : v.nextFrom n < n) (outside : n ≤ m ∨ m < v.nextFrom n) : m ∉ v := by
  intro hm
  obtain ⟨_, ⟨ahead, _⟩ | ⟨_, all⟩⟩ := nextFrom_cases nonempty n
  · omega
  · have := all m hm
    omega

end Values

end CronCalendar
