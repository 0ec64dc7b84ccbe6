import CronCalendar.Proofs.Field.SetTexts
import CronCalendar.Schedule.Document

/-!
# How schedules come about

`Schedule.Built` lists the ways in which a schedule is made and changed: from a task id, a line or a
JSON value, by setting a field from a text or from a set, and by setting the other members. Each of
them leaves every stored field settled (`Built.settled`): a text is stored trimmed, and a star as no
restriction.
-/

namespace CronCalendar
set_option autoImplicit false

open Field (Kind Expr)
open Random (Source)

namespace Schedule

/-- The schedules that come about, whatever random values are drawn. -/
inductive Built : Schedule → Prop
  | new (taskId : String) : Built { taskId }
  | ofLine {σ : Type} [Source σ] {taskId line : String} {source after : σ} {s : Schedule}
      (read : ofLine? taskId line source = .ok (s, after)) : Built s
  | ofJson {j : Json} {s : Schedule} (read : ofJson? j = some s) : Built s
  | setField {s : Schedule} (built : Built s) (kind : Kind) (text : String) :
      Built (s.setField kind text)
  | setFieldDrawing {σ : Type} [Source σ] {s : Schedule} (built : Built s) (kind : Kind)
      (text : String) (source : σ) : Built (s.setFieldDrawing kind text source).1
  | setValues {s : Schedule} (built : Built s) (kind : Kind) (v : Values) : Built (s.setValues kind v)
  | component {s : Schedule} (built : Built s) (component : String) : Built { s with component }
  | disabled {s : Schedule} (built : Built s) (disabled : Bool) : Built { s with disabled }
  | customised {s : Schedule} (built : Built s) (customised : Bool) : Built { s with customised }
  | overridden {s : Schedule} (built : Built s) (overridden : Bool) : Built { s with overridden }
  | lastRun {s : Schedule} (built : Built s) (lastRun : Option Instant) : Built { s with lastRun }
  | runIfComponentDisabled {s : Schedule} (built : Built s) (runIfComponentDisabled : Bool) :
      Built { s with runIfComponentDisabled }

/-- Every stored field is settled. -/
def Settled (s : Schedule) : Prop := ∀ kind, (s.field kind).Settled

variable {s t : Schedule}

theorem settled_of_any (taskId : String) : Settled { taskId } := by
  intro kind
  cases kind <;> trivial

theorem Settled.setExpr (settled : s.Settled) (kind : Kind) {e : Expr} (h : e.Settled) :
    (s.setExpr kind e).Settled := by
  intro other
  have stored : (s.setExpr kind e).field other = if kind = other then e else s.field other :=
    Fields.get_set _ _ _ _
  rw [stored]
  split
  · exact h
  · exact settled other

theorem Settled.setField (settled : s.Settled) (kind : Kind) (text : String) :
    (s.setField kind text).Settled := settled.setExpr kind (Expr.settled_ofText text)

theorem Settled.setFieldDrawing {σ : Type} [Source σ] (settled : s.Settled) (kind : Kind)
    (text : String) (source : σ) : (s.setFieldDrawing kind text source).1.Settled :=
  settled.setField kind _

theorem Settled.setFieldsDrawing {σ : Type} [Source σ] (settled : s.Settled) (source : σ)
    (texts : List (Kind × String)) : (s.setFieldsDrawing source texts).1.Settled := by
  induction texts generalizing s source with
  | nil => exact settled
  | cons first rest ih => exact ih (settled.setFieldDrawing first.1 first.2 source) _

/-- Setting a member from JSON sets a field from its text, or none. -/
theorem Settled.setMember (settled : s.Settled) {m : Member} {value : Json}
    (h : s.setMember? m value = some t) : t.Settled := by
  unfold setMember? at h
  split at h
  case h_3 kind text => cases h; exact settled.setField kind text
  case h_7 value =>
    obtain ⟨lastRun, -, rfl⟩ := Option.map_eq_some_iff.1 h
    exact settled
  case h_9 => cases h
  all_goals
    cases h
    exact settled

theorem Settled.setMembers (settled : s.Settled) {ms : List (Member × Json)}
    (h : s.setMembers? ms = some t) : t.Settled := by
  induction ms generalizing s with
  | nil => cases h; exact settled
  | cons m ms ih =>
    obtain ⟨next, first, h⟩ := Option.bind_eq_some_iff.1 h
    exact ih (settled.setMember first) h

theorem settled_ofMembers {ms : List (Member × Json)} (h : ofMembers? ms = some s) : s.Settled := by
  unfold ofMembers? at h
  dsimp only at h
  split at h
  · exact (settled_of_any "").setMembers h
  · cases h

theorem settled_ofJson {j : Json} (h : ofJson? j = some s) : s.Settled := by
  unfold ofJson? at h
  split at h
  · obtain ⟨ms, -, h⟩ := Option.bind_eq_some_iff.1 h
    exact settled_ofMembers h
  · split at h
    · exact settled_ofMembers h
    · cases h
  · cases h

/-- However a schedule comes about, its fields are settled. -/
theorem Built.settled (built : Built s) : s.Settled := by
  induction built with
  | new taskId => exact settled_of_any taskId
  | @ofLine σ _ taskId line source after s read =>
    unfold ofLine? at read
    dsimp only at read
    split at read
    · obtain rfl := congrArg Prod.fst (Except.ok.inj read)
      exact (settled_of_any taskId).setFieldsDrawing source _
    · cases read
  | ofJson read => exact settled_ofJson read
  | setField _ kind text ih => exact ih.setField kind text
  | setFieldDrawing _ kind text source ih => exact ih.setFieldDrawing kind text source
  | setValues _ kind v ih => exact ih.setExpr kind trivial
  | component _ _ ih => exact ih
  | disabled _ _ ih => exact ih
  | customised _ _ ih => exact ih
  | overridden _ _ ih => exact ih
  | lastRun _ _ ih => exact ih
  | runIfComponentDisabled _ _ ih => exact ih

end Schedule

end CronCalendar
