/-!
# Sets of values

The values a field stands for, as a strictly ascending list of numbers: the order shows in
every answer, and the type rules out repetitions.

`Values.nextFrom` is what a search asks of such a set: its least member at or after a number,
or its least member of all when the number is past the end.
-/

namespace CronCalendar
set_option autoImplicit false

/-- A finite set of numbers, listed in strictly ascending order. -/
structure Values where
  toList : List Nat
  ascending : toList.Pairwise (· < ·)
  deriving DecidableEq

namespace Values

/-- Two ascending lists as one, with what they share listed once. -/
def mergeLists : List Nat → List Nat → List Nat
  | [], ys => ys
  | xs, [] => xs
  | x :: xs, y :: ys =>
    if x < y then x :: mergeLists xs (y :: ys)
    else if y < x then y :: mergeLists (x :: xs) ys
    else x :: mergeLists xs ys
termination_by xs ys => xs.length + ys.length

theorem mem_mergeLists {n : Nat} {xs ys : List Nat} :
    n ∈ mergeLists xs ys ↔ n ∈ xs ∨ n ∈ ys := by
  fun_induction mergeLists xs ys with
  | case1 => simp
  | case2 => simp
  | case3 x xs y ys h ih => simp [ih, or_assoc]
  | case4 x xs y ys h h' ih => simp only [List.mem_cons, ih]; grind
  | case5 x xs y ys h h' ih =>
    have : x = y := by omega
    subst this
    simp only [List.mem_cons, ih]
    grind

theorem pairwise_mergeLists {xs ys : List Nat} (hx : xs.Pairwise (· < ·))
    (hy : ys.Pairwise (· < ·)) : (mergeLists xs ys).Pairwise (· < ·) := by
  fun_induction mergeLists xs ys with
  | case1 => exact hy
  | case2 => exact hx
  | case3 x xs y ys h ih =>
    rw [List.pairwise_cons] at hx ⊢
    refine ⟨fun n hn => ?_, ih hx.2 hy⟩
    rcases mem_mergeLists.1 hn with hn | hn
    · exact hx.1 n hn
    · rcases List.mem_cons.1 hn with rfl | hn
      · exact h
      · exact Nat.lt_trans h ((List.pairwise_cons.1 hy).1 n hn)
  | case4 x xs y ys h h' ih =>
    rw [List.pairwise_cons] at hy ⊢
    refine ⟨fun n hn => ?_, ih hx hy.2⟩
    rcases mem_mergeLists.1 hn with hn | hn
    · rcases List.mem_cons.1 hn with rfl | hn
      · exact h'
      · exact Nat.lt_trans h' ((List.pairwise_cons.1 hx).1 n hn)
    · exact hy.1 n hn
  | case5 x xs y ys h h' ih =>
    have : x = y := by omega
    subst this
    rw [List.pairwise_cons] at hx hy ⊢
    refine ⟨fun n hn => ?_, ih hx.2 hy.2⟩
    rcases mem_mergeLists.1 hn with hn | hn
    · exact hx.1 n hn
    · exact hy.1 n hn

instance : Membership Nat Values := ⟨fun v n => n ∈ v.toList⟩

instance (n : Nat) (v : Values) : Decidable (n ∈ v) := inferInstanceAs (Decidable (n ∈ v.toList))

/-- Two ascending lists with the same members are the same. -/
theorem eq_of_mem_iff {xs ys : List Nat} (hx : xs.Pairwise (· < ·)) (hy : ys.Pairwise (· < ·))
    (h : ∀ n, n ∈ xs ↔ n ∈ ys) : xs = ys := by
  induction xs generalizing ys with
  | nil => exact (List.eq_nil_iff_forall_not_mem.2 fun n hn => by simpa using (h n).2 hn).symm
  | cons x xs ih =>
    cases ys with
    | nil => simpa using (h x).1 List.mem_cons_self
    | cons y ys =>
      rw [List.pairwise_cons] at hx hy
      have same : x = y := by
        have h1 := (h x).1 List.mem_cons_self
        have h2 := (h y).2 List.mem_cons_self
        rcases List.mem_cons.1 h1 with h1 | h1
        · exact h1
        · rcases List.mem_cons.1 h2 with h2 | h2
          · exact h2.symm
          · have := hx.1 y h2
            have := hy.1 x h1
            omega
      subst same
      refine congrArg _ (ih hx.2 hy.2 fun n => ⟨fun hn => ?_, fun hn => ?_⟩)
      · have := hx.1 n hn
        rcases List.mem_cons.1 ((h n).1 (List.mem_cons_of_mem _ hn)) with rfl | hn
        · omega
        · exact hn
      · have := hy.1 n hn
        rcases List.mem_cons.1 ((h n).2 (List.mem_cons_of_mem _ hn)) with rfl | hn
        · omega
        · exact hn

/-- A set is determined by its members. -/
theorem ext_mem {v w : Values} (h : ∀ n, n ∈ v ↔ n ∈ w) : v = w := by
  obtain ⟨xs, hx⟩ := v
  obtain ⟨ys, hy⟩ := w
  obtain rfl := eq_of_mem_iff hx hy h
  rfl

/-- The set without members. -/
def empty : Values := ⟨[], List.Pairwise.nil⟩

/-- The members of either set. -/
def union (v w : Values) : Values :=
  ⟨mergeLists v.toList w.toList, pairwise_mergeLists v.ascending w.ascending⟩

theorem mem_union {n : Nat} {v w : Values} : n ∈ v.union w ↔ n ∈ v ∨ n ∈ w := mem_mergeLists

/-- The set with one member. -/
def singleton (n : Nat) : Values := ⟨[n], List.pairwise_singleton _ _⟩

/-- The members of any of the listed sets. -/
def unionAll (vs : List Values) : Values := vs.foldr union empty

/-- The set of the listed numbers. -/
def ofList (ns : List Nat) : Values := unionAll (ns.map singleton)

/-- The members that satisfy a test. -/
def filter (p : Nat → Bool) (v : Values) : Values :=
  ⟨v.toList.filter p, List.Pairwise.filter p v.ascending⟩

/-- The members from `lo` to `hi`. -/
def within (lo hi : Nat) (v : Values) : Values :=
  v.filter fun n => decide (lo ≤ n) && decide (n ≤ hi)

/-- The members at the positions 0, `step`, 2 `step` and so on of the ascending order. -/
def everyNth (step : Nat) (v : Values) : Values :=
  ⟨(v.toList.zipIdx.filter fun p => p.2 % step == 0).map Prod.fst, by
    have sublist : ((v.toList.zipIdx.filter fun p => p.2 % step == 0).map Prod.fst).Sublist
        v.toList := by
      have h := (List.filter_sublist (l := v.toList.zipIdx)
        (p := fun p => p.2 % step == 0)).map Prod.fst
      rwa [List.zipIdx_map_fst] at h
    exact v.ascending.sublist sublist⟩

theorem mem_everyNth {step m : Nat} {v : Values} :
    m ∈ v.everyNth step ↔ ∃ i, i % step = 0 ∧ v.toList[i]? = some m := by
  have h : m ∈ v.everyNth step ↔
      m ∈ (v.toList.zipIdx.filter fun p => p.2 % step == 0).map Prod.fst := Iff.rfl
  rw [h, List.mem_map]
  constructor
  · rintro ⟨⟨n, i⟩, hp, rfl⟩
    obtain ⟨hp, hi⟩ := List.mem_filter.1 hp
    exact ⟨i, by simpa using hi, List.mk_mem_zipIdx_iff_getElem?.1 hp⟩
  · rintro ⟨i, hi, hm⟩
    exact ⟨(m, i), List.mem_filter.2 ⟨List.mk_mem_zipIdx_iff_getElem?.2 hm, by simpa using hi⟩, rfl⟩

/-- Whether the set has no members. -/
def isEmpty (v : Values) : Bool := v.toList.isEmpty

/-- Whether a number is a member. -/
def contains (v : Values) (n : Nat) : Bool := v.toList.contains n

/-- The least member at or after `n`; the least of all if there is none; 0 for the empty set. -/
def nextFrom (n : Nat) (v : Values) : Nat :=
  match v.toList.find? fun m => decide (n ≤ m) with
  | some m => m
  | none => v.toList.headD 0

end Values

end CronCalendar
