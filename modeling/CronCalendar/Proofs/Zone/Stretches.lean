import CronCalendar.Proofs.Zone.Resolving
import CronCalendar.Proofs.Search.Setbacks

/-!
# Stretches of time without a change of the clock

Over a stretch of time in which no transition happens, the clock and the time line go on together, so a
wall time is shown once (`Stretch.wallAt_eq`). It may have been shown before the stretch began,
when the clock was put back; where clocks are changed at full hours, that was a whole hour before
(`Stretch.resolve`).
-/

namespace CronCalendar.Zone
set_option autoImplicit false

/-- The clock is changed at a full hour, by what it shows before and by what it shows then, and is put
back by a day at most. -/
structure ChangesAtFullHour (z : Zone) (x : Transition) : Prop where
  before : (x.since + z.offsetAt (x.since - 1)) % 3600 = 0
  behind : (x.since + z.offsetAt x.since) % 3600 = 0
  setback : z.offsetAt (x.since - 1) ≤ z.offsetAt x.since + 86400

instance (z : Zone) (x : Transition) : Decidable (z.ChangesAtFullHour x) :=
  decidable_of_iff
    ((x.since + z.offsetAt (x.since - 1)) % 3600 = 0 ∧ (x.since + z.offsetAt x.since) % 3600 = 0 ∧
      z.offsetAt (x.since - 1) ≤ z.offsetAt x.since + 86400)
    ⟨fun h => ⟨h.1, h.2.1, h.2.2⟩, fun h => ⟨h.before, h.behind, h.setback⟩⟩

/-- A stretch of time, from the start of a minute on, in which no transition happens. A full hour that
is shown in it and has been shown before was shown a whole hour before it. -/
structure Stretch (z : Zone) (lo hi : Int) : Prop where
  steady : ∀ x ∈ z.transitions, x.since ≤ lo ∨ hi < x.since
  minute : (lo + z.offsetAt lo) % 60 = 0
  earlier : ∀ {t u : Int}, lo ≤ u → u ≤ hi → t < lo → t + z.offsetAt t = u + z.offsetAt u →
    (u + z.offsetAt u) % 3600 = 0 → firstSecond ≤ t ∧ t + 3600 ≤ lo

variable {z : Zone} {lo hi : Int}

namespace Stretch

theorem offsetAt_eq (h : Stretch z lo hi) {u : Int} (from_le : lo ≤ u) (le : u ≤ hi) :
    z.offsetAt u = z.offsetAt lo := by
  symm
  apply Zone.offsetAt_eq from_le
  intro x member
  rcases h.steady x member with begun | ahead
  · exact Or.inl begun
  · exact Or.inr (by omega)

theorem wallAt_eq (h : Stretch z lo hi) {v : Instant} (from_le : lo ≤ v.seconds) (le : v.seconds ≤ hi) :
    (z.wallAt v).count = v.seconds + z.offsetAt lo := by
  rw [wallAt, h.offsetAt_eq from_le le]

/-- A part of a stretch that begins with it. -/
theorem shorten (h : Stretch z lo hi) {hi' : Int} (le : hi' ≤ hi) : Stretch z lo hi' where
  steady x member := by
    rcases h.steady x member with begun | ahead
    · exact Or.inl begun
    · exact Or.inr (by omega)
  minute := h.minute
  earlier from_le le' := h.earlier from_le (by omega)

/-- The minute of an instant of the stretch begins in it, if the instant does not come before. -/
theorem le_minuteStart (h : Stretch z lo hi) {v : Instant} (from_le : lo ≤ v.seconds)
    (le : v.seconds ≤ hi) : lo ≤ z.minuteStart v := by
  have second := (z.wallAt v).second_eq
  have count := h.wallAt_eq from_le le
  have minute := h.minute
  unfold minuteStart
  omega

/-- A full hour that is shown in the stretch is resolved to the instant that shows it there, or to one
that lies an hour before the stretch. -/
theorem resolve (h : Stretch z lo hi) {w : WallTime} {u : Instant} (full : w.count % 3600 = 0)
    (from_le : lo ≤ u.seconds) (le : u.seconds ≤ hi) (shows : u.seconds + z.offsetAt lo = w.count) :
    ∃ v : Instant, z.firstShowing? w = some v ∧ v.nanos = 0 ∧ z.wallAt v = w ∧
      (v.seconds = u.seconds ∨ v.seconds + 3600 ≤ lo) := by
  have offset := h.offsetAt_eq from_le le
  obtain ⟨first, first_le, shows', found⟩ :=
    @exists_first_second z w u.seconds (by rw [offset]; exact shows)
  have last := u.le_lastSecond
  have floor := u.firstSecond_le
  by_cases before : first < lo
  · obtain ⟨floor, hour⟩ := h.earlier from_le le before (by rw [offset, shows, shows'])
      (by rw [offset, shows]; exact full)
    obtain ⟨v, at_v⟩ := @Instant.exists_ofSeconds first floor (by omega)
    have shown := found.trans at_v
    obtain ⟨nanos, wall, -⟩ := firstShowing_eq_some shown
    have seconds := (Instant.ofSeconds_eq_some_iff.1 at_v).1
    exact ⟨v, shown, nanos, wall, Or.inr (by omega)⟩
  · have offset' := h.offsetAt_eq (u := first) (by omega) (by omega)
    obtain ⟨v, at_v⟩ := @Instant.exists_ofSeconds first (by omega) (by omega)
    have shown := found.trans at_v
    obtain ⟨nanos, wall, -⟩ := firstShowing_eq_some shown
    have seconds := (Instant.ofSeconds_eq_some_iff.1 at_v).1
    exact ⟨v, shown, nanos, wall, Or.inl (by omega)⟩

end Stretch

/-- The first of the transitions in a stretch of time. -/
theorem exists_first_transition {lo hi : Int}
    (some : ∃ x ∈ z.transitions, lo < x.since ∧ x.since ≤ hi) :
    ∃ x ∈ z.transitions, lo < x.since ∧ x.since ≤ hi ∧
      ∀ y ∈ z.transitions, y.since ≤ lo ∨ x.since ≤ y.since := by
  have sorted := ascending_iff.1 z.ascending
  generalize z.transitions = ts at *
  induction ts with
  | nil =>
    obtain ⟨x, member, -⟩ := some
    cases member
  | cons next rest ih =>
    obtain ⟨least, sorted⟩ := List.pairwise_cons.1 sorted
    obtain ⟨x, member, after, before⟩ := some
    by_cases passed : next.since ≤ lo
    · have later : x ∈ rest := by
        rcases List.mem_cons.1 member with rfl | later
        · omega
        · exact later
      obtain ⟨y, member', after', before', first⟩ := ih ⟨x, later, after, before⟩ sorted
      refine ⟨y, List.mem_cons_of_mem next member', after', before', ?_⟩
      intro a ha
      rcases List.mem_cons.1 ha with rfl | ha
      · exact Or.inl passed
      · exact first a ha
    · refine ⟨next, List.mem_cons_self, by omega, ?_, ?_⟩
      · rcases List.mem_cons.1 member with rfl | later
        · exact before
        · have := least x later
          omega
      · intro a ha
        rcases List.mem_cons.1 ha with rfl | ha
        · exact Or.inr (Int.le_refl _)
        · exact Or.inr (Int.le_of_lt (least a ha))

section
variable (rare : z.RarelyChanged) (settled : z.Settled)
include rare settled

/-- Where the last changes were made at full hours, a time without changes is a stretch. -/
theorem stretch_of_steady (steady : ∀ x ∈ z.transitions, x.since ≤ lo ∨ hi < x.since)
    (minute : (lo + z.offsetAt lo) % 60 = 0)
    (full : ∀ x ∈ z.transitions, lo ≤ x.since + 172800 → x.since ≤ lo → z.ChangesAtFullHour x) :
    Stretch z lo hi where
  steady := steady
  minute := minute
  earlier := by
    intro t u from_le le before same hour
    have bounds := offsetAt_bounds rare t
    have bounds' := offsetAt_bounds rare u
    obtain ⟨x, member, after, begun⟩ :=
      exists_transition (z := z) (t := t) (u := u) (by omega) (by omega)
    have begun : x.since ≤ lo := by
      rcases steady x member with h | h <;> omega
    have old := offsetAt_before rare member after (by omega)
    have full := (full x member (by omega) begun).before
    have first := (settled x member).1
    omega

/-- Behind a change at a full hour, there is a stretch of two days. -/
theorem stretch_of_transition {x : Transition} (member : x ∈ z.transitions)
    (full : z.ChangesAtFullHour x) : Stretch z x.since (x.since + 172800) := by
  apply stretch_of_steady rare settled
  · intro y member'
    apply Decidable.byContradiction
    intro inside
    have := eq_of_near rare member member' (by omega) (by omega)
    omega
  · have := full.behind
    omega
  · intro y member' near begun
    have same := eq_of_near rare member member' (by omega) (by omega)
    constructor
    · rw [← same]
      exact full.before
    · rw [← same]
      exact full.behind
    · rw [← same]
      exact full.setback

/-- From the minute of an instant on, as long as the clock is not changed, there is a stretch. -/
theorem stretch_of_minute {a : Instant} (le : a.seconds ≤ hi)
    (steady : ∀ x ∈ z.transitions, x.since ≤ a.seconds ∨ hi < x.since)
    (full : ∀ x ∈ z.transitions, a.seconds ≤ x.since + 259200 → x.since ≤ a.seconds →
      z.ChangesAtFullHour x) : Stretch z (z.minuteStart a) hi := by
  have bounds := Search.minuteStart_bounds z a
  have place : z.minuteStart a = a.seconds - (z.wallAt a).second := rfl
  have second := (z.wallAt a).second_eq
  have count : (z.wallAt a).count = a.seconds + z.offsetAt a.seconds := rfl
  have begun : ∀ x ∈ z.transitions, x.since ≤ a.seconds → x.since ≤ z.minuteStart a := by
    intro x member before
    by_cases near : a.seconds ≤ x.since + 60
    · have new := (full x member (by omega) before).behind
      have same := offsetAt_behind rare member before (by omega)
      omega
    · omega
  have steady : ∀ x ∈ z.transitions, x.since ≤ z.minuteStart a ∨ hi < x.since := by
    intro x member
    rcases steady x member with before | ahead
    · exact Or.inl (begun x member before)
    · exact Or.inr ahead
  have same : z.offsetAt (z.minuteStart a) = z.offsetAt a.seconds := by
    apply Zone.offsetAt_eq bounds.1
    intro x member
    rcases steady x member with before | ahead
    · exact Or.inl before
    · exact Or.inr (by omega)
  apply stretch_of_steady rare settled steady
  · omega
  · intro x member near before
    exact full x member (by omega) (by omega)

/-- A wall time between the two readings of a change is shown by no instant, and is read with the old
offset. -/
theorem resolve_swallowed {x : Transition} (member : x ∈ z.transitions) {w : WallTime}
    (from_le : x.since + z.offsetAt (x.since - 1) ≤ w.count)
    (before : w.count < x.since + z.offsetAt x.since) :
    z.isInGap w = true ∧ ∃ u : Instant, z.resolve? w = some u ∧ u.nanos = 0 ∧
      u.seconds = w.count - z.offsetAt (x.since - 1) := by
  have bounds := offsetAt_bounds rare (x.since - 1)
  have bounds' := offsetAt_bounds rare x.since
  have inside := settled x member
  have last : never.seconds ≤ lastSecond := by decide
  have skips : z.Skips x w := ⟨from_le, before⟩
  exact ⟨Skips.isInGap rare member skips, Skips.resolve rare member skips (by omega) (by omega)⟩

end

end CronCalendar.Zone
