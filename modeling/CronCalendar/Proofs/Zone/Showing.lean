import CronCalendar.Zone.Basic
import CronCalendar.Proofs.Calendar.Readings

/-!
# When a clock shows a wall time

`mem_secondsShowing` says that the list of seconds computed from the table is the set of solutions
of `t + offsetAt t = w`, and `pairwise_secondsFrom` that it is in order, so `firstShowing?` is the
least solution. `resolve_eq_some` splits a resolved wall time into the two ways of finding it. The
local type only changes at a transition (`offsetAt_eq`); in coordinated universal time it never
changes, and a wall time is its own instant (`resolve_utc`).
-/

namespace CronCalendar
set_option autoImplicit false

theorem ascending_iff {ts : List Transition} :
    Ascending ts ↔ ts.Pairwise fun a b => a.since < b.since := by
  induction ts with
  | nil => simp [Ascending]
  | cons a rest ih =>
    cases rest with
    | nil => simp [Ascending]
    | cons b rest =>
      rw [Ascending, ih]
      constructor
      · rintro ⟨lt, sorted⟩
        refine List.pairwise_cons.2 ⟨fun c hc => ?_, sorted⟩
        rcases List.mem_cons.1 hc with rfl | hc
        · exact lt
        · exact Int.lt_trans lt ((List.pairwise_cons.1 sorted).1 c hc)
      · intro h
        obtain ⟨all, sorted⟩ := List.pairwise_cons.1 h
        exact ⟨all b List.mem_cons_self, sorted⟩

namespace Zone

/-- The local type stays the same over a time in which no transition happens. -/
theorem typeFrom_eq {current : LocalType} {ts : List Transition} {t u : Int} (le : t ≤ u)
    (quiet : ∀ a ∈ ts, a.since ≤ t ∨ u < a.since) : typeFrom current ts t = typeFrom current ts u := by
  induction ts generalizing current with
  | nil => rfl
  | cons next rest ih =>
    have later := @ih next.type fun a ha => quiet a (List.mem_cons_of_mem _ ha)
    unfold typeFrom
    rcases quiet next List.mem_cons_self with begun | ahead
    · rw [if_pos begun, if_pos (Int.le_trans begun le), later]
    · rw [if_neg (by omega), if_neg (by omega)]

theorem offsetAt_eq {z : Zone} {t u : Int} (le : t ≤ u)
    (quiet : ∀ a ∈ z.transitions, a.since ≤ t ∨ u < a.since) : z.offsetAt t = z.offsetAt u := by
  unfold offsetAt typeAt
  rw [typeFrom_eq le quiet]

theorem hasBegun_iff {since : Option Int} {t : Int} :
    hasBegun since t = true ↔ ∀ s, since = some s → s ≤ t := by
  cases since with
  | none => simp [hasBegun]
  | some s => simp [hasBegun]

/-- The seconds listed from a transition on are those at which the clock shows the wall time. -/
theorem mem_secondsFrom {since : Option Int} {current : LocalType} {ts : List Transition}
    {w : WallTime} {t : Int} (sorted : ts.Pairwise fun a b => a.since < b.since)
    (ahead : ∀ s, since = some s → ∀ a ∈ ts, s < a.since) :
    t ∈ secondsFrom since current ts w ↔
      hasBegun since t = true ∧ t + (typeFrom current ts t).offset = w.count := by
  induction ts generalizing since current with
  | nil =>
    simp only [secondsFrom, typeFrom]
    split
    · rw [List.mem_singleton]
      constructor
      · rintro rfl
        exact ⟨‹_›, by omega⟩
      · intro h
        omega
    · refine ⟨fun h => (List.not_mem_nil h).elim, fun ⟨begun, h⟩ => ?_⟩
      rw [show w.count - current.offset = t by omega] at *
      contradiction
  | cons next rest ih =>
    obtain ⟨first, sorted⟩ := List.pairwise_cons.1 sorted
    have later := @ih (some next.since) next.type sorted fun s hs a ha => by cases hs; exact first a ha
    rw [hasBegun_iff] at later
    simp only [secondsFrom, typeFrom]
    by_cases past : next.since ≤ t
    · rw [if_pos past]
      have begun : hasBegun since t = true :=
        hasBegun_iff.2 fun s hs => Int.le_trans (Int.le_of_lt (ahead s hs next List.mem_cons_self)) past
      have here : t ≠ w.count - current.offset ∨ ¬ w.count - current.offset < next.since := by omega
      split
      · rename_i h
        rw [List.mem_cons, later]
        simp at h
        constructor
        · rintro (rfl | ⟨_, shows⟩)
          · omega
          · exact ⟨begun, shows⟩
        · rintro ⟨_, shows⟩
          exact Or.inr ⟨fun s hs => by cases hs; exact past, shows⟩
      · rw [later]
        exact ⟨fun h => ⟨begun, h.2⟩, fun h => ⟨fun s hs => by cases hs; exact past, h.2⟩⟩
    · rw [if_neg past]
      have absent : t ∉ secondsFrom (some next.since) next.type rest w := fun h =>
        past ((later.1 h).1 next.since rfl)
      split
      · rename_i h
        simp only [Bool.and_eq_true, decide_eq_true_eq] at h
        rw [List.mem_cons]
        constructor
        · rintro (rfl | h')
          · exact ⟨h.1, by omega⟩
          · exact absurd h' absent
        · rintro ⟨_, shows⟩
          exact Or.inl (by omega)
      · rename_i h
        refine ⟨fun h' => absurd h' absent, fun ⟨begun, shows⟩ => ?_⟩
        obtain rfl : w.count - current.offset = t := by omega
        simp [begun] at h
        omega

theorem pairwise_secondsFrom {since : Option Int} {current : LocalType} {ts : List Transition}
    {w : WallTime} (sorted : ts.Pairwise fun a b => a.since < b.since) :
    (secondsFrom since current ts w).Pairwise (· < ·) := by
  induction ts generalizing since current with
  | nil =>
    simp only [secondsFrom]
    split
    · exact List.pairwise_singleton _ _
    · exact List.Pairwise.nil
  | cons next rest ih =>
    obtain ⟨first, sorted⟩ := List.pairwise_cons.1 sorted
    have later := @ih (some next.since) next.type sorted
    simp only [secondsFrom]
    split
    · rename_i h
      simp only [Bool.and_eq_true, decide_eq_true_eq] at h
      refine List.pairwise_cons.2 ⟨fun t ht => ?_, later⟩
      have begun := ((mem_secondsFrom sorted fun s hs a ha => by cases hs; exact first a ha).1 ht).1
      have := hasBegun_iff.1 begun next.since rfl
      omega
    · exact later

section
variable {z : Zone} {w : WallTime}

/-- The listed seconds are exactly those at which the clock shows the wall time. -/
theorem mem_secondsShowing {t : Int} :
    t ∈ z.secondsShowing w ↔ t + z.offsetAt t = w.count := by
  rw [secondsShowing, mem_secondsFrom (ascending_iff.1 z.ascending) fun s hs => by cases hs]
  exact ⟨fun h => h.2, fun h => ⟨rfl, h⟩⟩

/-- The first instant that shows a wall time shows it, and no second before it does. -/
theorem firstShowing_eq_some {u : Instant} (h : z.firstShowing? w = some u) :
    u.nanos = 0 ∧ z.wallAt u = w ∧ ∀ t, t + z.offsetAt t = w.count → u.seconds ≤ t := by
  obtain ⟨first, head, at_first⟩ := Option.bind_eq_some_iff.1 h
  obtain ⟨seconds, nanos⟩ := Instant.ofSeconds_eq_some_iff.1 at_first
  obtain ⟨rest, list⟩ := List.head?_eq_some_iff.1 head
  have sorted : (z.secondsShowing w).Pairwise (· < ·) :=
    pairwise_secondsFrom (ascending_iff.1 z.ascending)
  rw [list] at sorted
  have shows : first + z.offsetAt first = w.count :=
    mem_secondsShowing.1 (by rw [list]; exact List.mem_cons_self)
  refine ⟨nanos, ?_, fun t ht => ?_⟩
  · rw [wallAt, seconds, shows]
  · have := mem_secondsShowing.2 ht
    rw [list] at this
    rcases List.mem_cons.1 this with rfl | later
    · omega
    · have := (List.pairwise_cons.1 sorted).1 t later
      omega

/-- A wall time that is shown has a first second of being shown. -/
theorem exists_first_second {t : Int} (shows : t + z.offsetAt t = w.count) :
    ∃ first, first ≤ t ∧ first + z.offsetAt first = w.count ∧
      z.firstShowing? w = Instant.ofSeconds? first := by
  have member := mem_secondsShowing.2 shows
  obtain ⟨first, rest, list⟩ := List.exists_cons_of_ne_nil (List.ne_nil_of_mem member)
  have sorted : (z.secondsShowing w).Pairwise (· < ·) :=
    pairwise_secondsFrom (ascending_iff.1 z.ascending)
  refine ⟨first, ?_, mem_secondsShowing.1 (by rw [list]; exact List.mem_cons_self), ?_⟩
  · rw [list] at member sorted
    rcases List.mem_cons.1 member with rfl | later
    · exact Int.le_refl _
    · exact Int.le_of_lt ((List.pairwise_cons.1 sorted).1 t later)
  · rw [firstShowing?, list]
    rfl

theorem isInGap_iff : z.isInGap w = true ↔ z.firstShowing? w = none := by
  rw [isInGap, Option.isNone_iff_eq_none]

theorem isInGap_eq_false_iff : z.isInGap w = false ↔ ∃ u, z.firstShowing? w = some u := by
  rw [isInGap, Option.isNone_eq_false_iff, Option.isSome_iff_exists]

/-- A wall time is resolved either to an instant that shows it, or, from inside a gap, by the
offset of one day earlier. -/
theorem resolve_eq_some {u : Instant} (h : z.resolve? w = some u) :
    z.firstShowing? w = some u ∨
      z.isInGap w = true ∧ u.nanos = 0 ∧
        ∃ probe : Instant, probe.seconds = w.count - 86400 ∧
          u.seconds = w.count - z.offsetAt probe.seconds := by
  unfold resolve? at h
  split at h
  · cases h
    exact Or.inl ‹_›
  · rename_i gap
    obtain ⟨probe, hprobe, hu⟩ := Option.bind_eq_some_iff.1 h
    obtain ⟨seconds, nanos⟩ := Instant.ofSeconds_eq_some_iff.1 hu
    exact Or.inr ⟨isInGap_iff.2 gap, nanos, probe, (Instant.ofSeconds_eq_some_iff.1 hprobe).1, seconds⟩

theorem resolve_nanos {u : Instant} (h : z.resolve? w = some u) : u.nanos = 0 := by
  rcases resolve_eq_some h with shown | ⟨-, nanos, -⟩
  · exact (firstShowing_eq_some shown).1
  · exact nanos

end

/-! ## Coordinated universal time -/

theorem offsetAt_utc (t : Int) : utc.offsetAt t = 0 := rfl

theorem wallAt_utc (t : Instant) : utc.wallAt t = ⟨t.seconds⟩ := by
  rw [wallAt, offsetAt_utc, Int.add_zero]

theorem firstShowing_utc (w : WallTime) : utc.firstShowing? w = Instant.ofSeconds? w.count := by
  have list : utc.secondsShowing w = [w.count] := by
    have : w.count - (0 : Int) = w.count := Int.sub_zero _
    simp only [secondsShowing, utc, fixed, secondsFrom, hasBegun, this, if_true]
  rw [firstShowing?, list]
  rfl

theorem resolve_utc (w : WallTime) : utc.resolve? w = Instant.ofSeconds? w.count := by
  rw [resolve?, firstShowing_utc]
  cases h : Instant.ofSeconds? w.count with
  | some t => rfl
  | none =>
    simp only [gapInstant?, offsetAt_utc, Int.sub_zero, h]
    cases Instant.ofSeconds? (w.count - secondsPerDay) <;> rfl

end Zone
end CronCalendar
