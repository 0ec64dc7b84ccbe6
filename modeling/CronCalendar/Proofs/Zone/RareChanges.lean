import CronCalendar.Proofs.Zone.Showing

/-!
# Zones that are rarely changed

In a zone whose offsets stay below a day and whose transitions are more than two days apart, at most one
transition falls into any two days (`eq_of_near`), so around a transition the clock has one offset
before it and one behind it. A wall time that no instant shows then lies in the gap of a transition,
and the probe of one day earlier reads the offset before that gap (`gap_of_resolve`).
-/

namespace CronCalendar.Zone
set_option autoImplicit false

/-- The offsets stay below a day, and the transitions are more than two days apart. -/
structure RarelyChanged (z : Zone) : Prop where
  initial : -86400 < z.initial.offset ∧ z.initial.offset < 86400
  offsets : ∀ a ∈ z.transitions, -86400 < a.type.offset ∧ a.type.offset < 86400
  apart : z.transitions.Pairwise fun a b => a.since + 172800 < b.since

instance (z : Zone) : Decidable z.RarelyChanged :=
  decidable_of_iff
    ((-86400 < z.initial.offset ∧ z.initial.offset < 86400) ∧
      (∀ a ∈ z.transitions, -86400 < a.type.offset ∧ a.type.offset < 86400) ∧
      z.transitions.Pairwise fun a b => a.since + 172800 < b.since)
    ⟨fun h => ⟨h.1, h.2.1, h.2.2⟩, fun h => ⟨h.initial, h.offsets, h.apart⟩⟩

/-- The clock is not put back in the last two days that are supported. -/
def NoLateSetback (z : Zone) : Prop :=
  ∀ x ∈ z.transitions, lastSecond < x.since + 172800 → x.since ≤ lastSecond →
    z.offsetAt (x.since - 1) ≤ z.offsetAt x.since

/-- Every transition comes more than two days after the one before it. -/
def Spaced : List Transition → Prop
  | [] => True
  | [_] => True
  | a :: b :: rest => a.since + 172800 < b.since ∧ Spaced (b :: rest)

instance decidableSpaced : (ts : List Transition) → Decidable (Spaced ts)
  | [] => isTrue trivial
  | [_] => isTrue trivial
  | a :: b :: rest =>
    have := decidableSpaced (b :: rest)
    inferInstanceAs (Decidable (a.since + 172800 < b.since ∧ Spaced (b :: rest)))

theorem Spaced.pairwise {ts : List Transition} (spaced : Spaced ts) :
    ts.Pairwise fun a b => a.since + 172800 < b.since := by
  induction ts with
  | nil => exact List.Pairwise.nil
  | cons a rest ih =>
    cases rest with
    | nil => exact List.pairwise_singleton _ _
    | cons b rest =>
      obtain ⟨next, later⟩ := spaced
      apply List.pairwise_cons.2
      refine ⟨?_, ih later⟩
      intro c member
      rcases List.mem_cons.1 member with rfl | member
      · exact next
      · have := (List.pairwise_cons.1 (ih later)).1 c member
        omega

/-- It is enough to compare neighbouring transitions. -/
theorem rarelyChanged_of_spaced {z : Zone}
    (initial : -86400 < z.initial.offset ∧ z.initial.offset < 86400)
    (offsets : ∀ a ∈ z.transitions, -86400 < a.type.offset ∧ a.type.offset < 86400)
    (spaced : Spaced z.transitions) : z.RarelyChanged :=
  ⟨initial, offsets, spaced.pairwise⟩

theorem typeFrom_mem {current : LocalType} {ts : List Transition} (t : Int) :
    typeFrom current ts t = current ∨ ∃ a ∈ ts, typeFrom current ts t = a.type := by
  induction ts generalizing current with
  | nil => exact Or.inl rfl
  | cons next rest ih =>
    unfold typeFrom
    split
    · rcases @ih next.type with h | ⟨a, member, h⟩
      · exact Or.inr ⟨next, List.mem_cons_self, h⟩
      · exact Or.inr ⟨a, List.mem_cons_of_mem next member, h⟩
    · exact Or.inl rfl

/-- What holds of the offsets of a table holds at any time. -/
theorem forall_offsetAt {z : Zone} {p : Int → Prop} (initial : p z.initial.offset)
    (types : ∀ a ∈ z.transitions, p a.type.offset) (t : Int) : p (z.offsetAt t) := by
  unfold offsetAt typeAt
  rcases @typeFrom_mem z.initial z.transitions t with h | ⟨a, member, h⟩
  · rw [h]
    exact initial
  · rw [h]
    exact types a member

/-- The clock changes its offset only by a transition. -/
theorem exists_transition {z : Zone} {t u : Int} (le : t ≤ u) (change : z.offsetAt t ≠ z.offsetAt u) :
    ∃ a ∈ z.transitions, t < a.since ∧ a.since ≤ u := by
  apply Decidable.byContradiction
  intro none
  apply change
  apply offsetAt_eq le
  intro a member
  by_cases inside : t < a.since ∧ a.since ≤ u
  · exact absurd ⟨a, member, inside⟩ none
  · omega

/-- The changes of a table: their seconds, and the offsets before and behind them. -/
def changesFrom (current : LocalType) : List Transition → List (Int × Int × Int)
  | [] => []
  | next :: rest => (next.since, current.offset, next.type.offset) :: changesFrom next.type rest

theorem typeFrom_of_lt {current : LocalType} {ts : List Transition} {t : Int}
    (ahead : ∀ a ∈ ts, t < a.since) : typeFrom current ts t = current := by
  cases ts with
  | nil => rfl
  | cons next rest =>
    have := ahead next List.mem_cons_self
    rw [typeFrom, if_neg (by omega)]

theorem mem_changesFrom {current : LocalType} {ts : List Transition}
    (sorted : ts.Pairwise fun a b => a.since < b.since) {x : Transition} (member : x ∈ ts) :
    (x.since, (typeFrom current ts (x.since - 1)).offset, (typeFrom current ts x.since).offset) ∈
      changesFrom current ts := by
  induction ts generalizing current with
  | nil => cases member
  | cons next rest ih =>
    obtain ⟨first, sorted⟩ := List.pairwise_cons.1 sorted
    simp only [typeFrom, changesFrom]
    rcases List.mem_cons.1 member with rfl | later
    · rw [if_neg (by omega), if_pos (Int.le_refl _), typeFrom_of_lt first]
      exact List.mem_cons_self
    · have := first x later
      rw [if_pos (by omega), if_pos (by omega)]
      exact List.mem_cons_of_mem _ (ih sorted later)

/-- What holds of the changes of the table holds of the transitions. -/
theorem forall_of_changes {z : Zone} {p : Int → Int → Int → Prop}
    (all : ∀ c ∈ changesFrom z.initial z.transitions, p c.1 c.2.1 c.2.2) :
    ∀ x ∈ z.transitions, p x.since (z.offsetAt (x.since - 1)) (z.offsetAt x.since) :=
  fun _ member => all _ (mem_changesFrom (ascending_iff.1 z.ascending) member)

/-- What holds of an offset, and of those that take over later, holds from its time on. -/
theorem forall_offsetAt_from {z : Zone} {p : Int → Prop} {first t : Int} (start : p (z.offsetAt first))
    (later : ∀ x ∈ z.transitions, first < x.since → p (z.offsetAt x.since)) (le : first ≤ t) :
    p (z.offsetAt t) := by
  obtain ⟨k, rfl⟩ := Int.le.dest le
  induction k with
  | zero => rw [Int.natCast_zero, Int.add_zero]; exact start
  | succ k ih =>
    by_cases same : z.offsetAt (first + k) = z.offsetAt (first + (k + 1 : Nat))
    · rw [← same]
      exact ih (by omega)
    · obtain ⟨a, member, after, here⟩ := exists_transition (by omega) same
      rw [show first + (k + 1 : Nat) = a.since by omega]
      exact later a member (by omega)

variable {z : Zone} (rare : z.RarelyChanged)
include rare

theorem offsetAt_bounds (t : Int) : -86400 < z.offsetAt t ∧ z.offsetAt t < 86400 :=
  forall_offsetAt (p := fun o => -86400 < o ∧ o < 86400) rare.initial rare.offsets t

/-- No two transitions fall into the same two days. -/
theorem eq_of_near {a b : Transition} (ha : a ∈ z.transitions) (hb : b ∈ z.transitions)
    (near : a.since ≤ b.since + 172800) (near' : b.since ≤ a.since + 172800) : a.since = b.since := by
  have apart := rare.apart
  generalize z.transitions = ts at *
  induction ts with
  | nil => cases ha
  | cons first rest ih =>
    obtain ⟨before, apart⟩ := List.pairwise_cons.1 apart
    rcases List.mem_cons.1 ha with rfl | later
    · rcases List.mem_cons.1 hb with rfl | later'
      · rfl
      · have := before b later'
        omega
    · rcases List.mem_cons.1 hb with rfl | later'
      · have := before a later
        omega
      · exact ih later later' apart

/-- In the two days before a transition and in the two days behind it, the offset stays the same. -/
theorem offsetAt_near {a : Transition} (member : a ∈ z.transitions) {t u : Int} (le : t ≤ u)
    (side : a.since ≤ t ∨ u < a.since) (near : u ≤ a.since + 172800)
    (near' : a.since ≤ t + 172800) : z.offsetAt t = z.offsetAt u := by
  apply offsetAt_eq le
  intro b member'
  by_cases begun : b.since ≤ t
  · exact Or.inl begun
  · right
    apply Int.not_le.1
    intro inside
    have := eq_of_near rare member member' (by omega) (by omega)
    omega

/-- In the two days before a transition, the old offset is in force. -/
theorem offsetAt_before {a : Transition} (member : a ∈ z.transitions) {t : Int} (before : t < a.since)
    (near : a.since ≤ t + 172800) : z.offsetAt t = z.offsetAt (a.since - 1) :=
  offsetAt_near rare member (Int.le_sub_one_of_lt before) (Or.inr (Int.sub_one_lt_of_le (Int.le_refl _)))
    (by omega) near

/-- In the two days behind a transition, the new offset is in force. -/
theorem offsetAt_behind {a : Transition} (member : a ∈ z.transitions) {t : Int} (behind : a.since ≤ t)
    (near : t ≤ a.since + 172800) : z.offsetAt t = z.offsetAt a.since :=
  (offsetAt_near rare member behind (Or.inl (Int.le_refl _)) near (by omega)).symm

theorem count_before {a : Transition} (member : a ∈ z.transitions) {v : Instant}
    (before : v.seconds < a.since) (near : a.since ≤ v.seconds + 172800) :
    (z.wallAt v).count = v.seconds + z.offsetAt (a.since - 1) := by
  rw [← offsetAt_before rare member before near]
  rfl

theorem count_behind {a : Transition} (member : a ∈ z.transitions) {v : Instant}
    (behind : a.since ≤ v.seconds) (near : v.seconds ≤ a.since + 172800) :
    (z.wallAt v).count = v.seconds + z.offsetAt a.since := by
  rw [← offsetAt_behind rare member behind near]
  rfl

/-- A wall time in a gap, a day inside the supported years, is shown by no instant. -/
theorem wallAt_ne_of_isInGap {w : WallTime} (gap : z.isInGap w = true)
    (inside : firstSecond ≤ w.count - 86400) (v : Instant) : z.wallAt v ≠ w := by
  rintro rfl
  obtain ⟨first, le, shows, found⟩ := @exists_first_second z (z.wallAt v) v.seconds rfl
  have bounds := offsetAt_bounds rare first
  have last := v.le_lastSecond
  obtain ⟨u, exists_u⟩ := @Instant.exists_ofSeconds first (by omega) (by omega)
  rw [isInGap, found, exists_u] at gap
  cases gap

/-- A wall time that is resolved although no instant shows it comes after a recent change, and is read with
the offset before that. With the offset behind it, it would be shown behind the last second, if at all. -/
theorem exists_change_of_gap {w : WallTime} {u : Instant} (gap : z.isInGap w = true)
    (resolved : z.resolve? w = some u) :
    ∃ a ∈ z.transitions, w.count - 86400 < a.since ∧ a.since ≤ u.seconds ∧
      u.seconds = w.count - z.offsetAt (a.since - 1) ∧ firstSecond < a.since ∧
      (w.count < a.since + z.offsetAt a.since ∨ lastSecond < w.count - z.offsetAt a.since) := by
  rcases resolve_eq_some resolved with shown | ⟨-, -, probe, at_probe, at_u⟩
  · rw [isInGap, shown] at gap
    cases gap
  have first := probe.firstSecond_le
  have unshown := wallAt_ne_of_isInGap rare gap (by omega)
  have probe_bounds := offsetAt_bounds rare probe.seconds
  have change : z.offsetAt probe.seconds ≠ z.offsetAt u.seconds := by
    intro same
    apply unshown u
    unfold wallAt
    rw [← same, at_u, Int.sub_add_cancel]
  obtain ⟨a, member, after, before⟩ := exists_transition (by omega) change
  have old : z.offsetAt probe.seconds = z.offsetAt (a.since - 1) :=
    offsetAt_before rare member (by omega) (by omega)
  refine ⟨a, member, by omega, before, by omega, by omega, ?_⟩
  apply Decidable.byContradiction
  intro outside
  -- Otherwise the wall time would be shown with the offset behind the transition.
  have new_bounds := offsetAt_bounds rare a.since
  have shows := offsetAt_near rare member (t := a.since) (u := w.count - z.offsetAt a.since)
    (by omega) (Or.inl (Int.le_refl _)) (by omega) (by omega)
  obtain ⟨v, at_v⟩ := @Instant.exists_ofSeconds (w.count - z.offsetAt a.since) (by omega) (by omega)
  apply unshown v
  unfold wallAt
  rw [(Instant.ofSeconds_eq_some_iff.1 at_v).1, ← shows, Int.sub_add_cancel]

/-- A wall time that is moved over a gap lies between the offset before a transition and the one
behind it, and is read with the offset before. -/
theorem gap_of_resolve {w : WallTime} {u : Instant} (gap : z.isInGap w = true)
    (resolved : z.resolve? w = some u)
    (inside : ∀ a ∈ z.transitions, a.since + 172800 ≤ lastSecond) :
    ∃ a ∈ z.transitions, a.since ≤ u.seconds ∧ w.count < a.since + z.offsetAt a.since ∧
      u.seconds = w.count - z.offsetAt (a.since - 1) ∧ firstSecond < a.since := by
  obtain ⟨a, member, recent, before, seconds, first, swallowed | beyond⟩ :=
    exists_change_of_gap rare gap resolved
  · exact ⟨a, member, before, swallowed, seconds, first⟩
  · have last := inside a member
    have bounds := offsetAt_bounds rare a.since
    omega

/-- Before a change, the clock shows less than the reading with which the old offset ends, -/
theorem reading_before {x : Transition} (member : x ∈ z.transitions) {q : Int} (before : q < x.since) :
    q + z.offsetAt q < x.since + z.offsetAt (x.since - 1) := by
  have bounds := offsetAt_bounds rare q
  have bounds' := offsetAt_bounds rare (x.since - 1)
  by_cases near : x.since ≤ q + 172800
  · rw [offsetAt_before rare member before near]
    omega
  · omega

/-- and behind it no less than the one with which the new offset begins. -/
theorem reading_behind {x : Transition} (member : x ∈ z.transitions) {q : Int} (behind : x.since ≤ q) :
    x.since + z.offsetAt x.since ≤ q + z.offsetAt q := by
  have bounds := offsetAt_bounds rare q
  have bounds' := offsetAt_bounds rare x.since
  by_cases near : q ≤ x.since + 172800
  · rw [offsetAt_behind rare member behind near]
    omega
  · omega

/-- From the instant on to which a wall time in a gap is moved, the clock never shows less. In the last
day, this takes that the clock is not put back from the wall time to one whose instants are out of reach. -/
theorem le_reading_of_gap {w : WallTime} {u : Instant} (gap : z.isInGap w = true)
    (resolved : z.resolve? w = some u) (inside : w.count + 86400 ≤ lastSecond ∨ z.NoLateSetback)
    {q : Int} (behind : u.seconds ≤ q) : w.count ≤ q + z.offsetAt q := by
  obtain ⟨a, member, recent, before, seconds, -, swallowed | beyond⟩ :=
    exists_change_of_gap rare gap resolved
  · have := reading_behind rare member (q := q) (by omega)
    omega
  · exfalso
    have bounds := offsetAt_bounds rare a.since
    have last := u.le_lastSecond
    rcases inside with early | calm
    · omega
    · have := calm a member (by omega) (by omega)
      omega

end CronCalendar.Zone
