import CronCalendar.Proofs.Zone.Showing

/-!
# Zones that shift by whole hours

In a zone whose clocks are changed at full hours only, and by whole hours, all offsets agree up to whole
hours (`offsetAt_mod`), and the clock goes through each hour that it begins without a change
(`offsetAt_of_sameHour`).
-/

namespace CronCalendar
set_option autoImplicit false

/-- Every transition happens at a full hour of the local clock before it, and shifts the clock by whole
hours. -/
def ShiftWholeHours (current : LocalType) : List Transition → Prop
  | [] => True
  | next :: rest =>
    (next.since + current.offset) % 3600 = 0 ∧ (next.type.offset - current.offset) % 3600 = 0 ∧
      ShiftWholeHours next.type rest

instance decidableShiftWholeHours :
    (current : LocalType) → (ts : List Transition) → Decidable (ShiftWholeHours current ts)
  | _, [] => isTrue trivial
  | current, next :: rest =>
    have := decidableShiftWholeHours next.type rest
    inferInstanceAs (Decidable ((next.since + current.offset) % 3600 = 0 ∧
      (next.type.offset - current.offset) % 3600 = 0 ∧ ShiftWholeHours next.type rest))

namespace Zone

/-- The clocks of the zone are changed at full hours only, and by whole hours. -/
def ShiftsWholeHours (z : Zone) : Prop := ShiftWholeHours z.initial z.transitions

instance (z : Zone) : Decidable z.ShiftsWholeHours :=
  inferInstanceAs (Decidable (ShiftWholeHours z.initial z.transitions))

theorem typeFrom_mod {current : LocalType} {ts : List Transition} (whole : ShiftWholeHours current ts)
    (t : Int) : ((typeFrom current ts t).offset - current.offset) % 3600 = 0 := by
  induction ts generalizing current with
  | nil => simp [typeFrom]
  | cons next rest ih =>
    obtain ⟨-, shift, later⟩ := whole
    have := ih later
    unfold typeFrom
    split <;> omega

theorem since_mod {current : LocalType} {ts : List Transition} (whole : ShiftWholeHours current ts)
    {a : Transition} (member : a ∈ ts) : (a.since + current.offset) % 3600 = 0 := by
  induction ts generalizing current with
  | nil => cases member
  | cons next rest ih =>
    obtain ⟨full, shift, later⟩ := whole
    rcases List.mem_cons.1 member with rfl | member
    · exact full
    · have := ih later member
      omega

variable {z : Zone} (whole : z.ShiftsWholeHours)
include whole

theorem offsetAt_mod (t u : Int) : (z.offsetAt t - z.offsetAt u) % 3600 = 0 := by
  have := typeFrom_mod whole t
  have := typeFrom_mod whole u
  unfold offsetAt typeAt
  omega

theorem transition_mod {a : Transition} (member : a ∈ z.transitions) (t : Int) :
    (a.since + z.offsetAt t) % 3600 = 0 := by
  have := since_mod whole member
  have := typeFrom_mod whole t
  unfold offsetAt typeAt
  omega

/-- No transition happens within an hour of the local clock. -/
theorem offsetAt_of_sameHour {t u : Int}
    (same : (u + z.offsetAt t) / 3600 = (t + z.offsetAt t) / 3600) : z.offsetAt u = z.offsetAt t := by
  rcases Int.le_total t u with le | le
  · apply (offsetAt_eq le _).symm
    intro a member
    have := transition_mod whole member t
    omega
  · apply offsetAt_eq le
    intro a member
    have := transition_mod whole member t
    omega

theorem wallAt_of_sameHour {v b : Instant}
    (same : (v.seconds + z.offsetAt b.seconds) / 3600 = (z.wallAt b).count / 3600) :
    z.wallAt v = ⟨v.seconds + z.offsetAt b.seconds⟩ := by
  rw [wallAt, offsetAt_of_sameHour whole same]

/-- A wall time at a full hour that is skipped is moved to a full hour. -/
theorem resolve_mod {w : WallTime} {u : Instant} (full : w.count % 3600 = 0)
    (resolved : z.resolve? w = some u) : (z.wallAt u).count % 3600 = 0 := by
  rcases resolve_eq_some resolved with shown | ⟨-, -, probe, -, seconds⟩
  · rw [(firstShowing_eq_some shown).2.1]
    exact full
  · have := offsetAt_mod whole u.seconds probe.seconds
    unfold wallAt
    simp only
    omega

end Zone
end CronCalendar
