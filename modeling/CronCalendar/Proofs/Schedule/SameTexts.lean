import CronCalendar.Proofs.Schedule.Documents
import CronCalendar.Schedule.NextRun

/-!
# Schedules of the same texts

Stored fields count as the same when their texts agree, and a schedule is saved as the texts of its
fields. What the texts leave open is a set that lies on both sides of the bounds: as a set it loses
the members outside, and as a text it matches nothing. Apart from such sets, the text of a field
says what it matches, so schedules of the same texts, and a schedule and what is read back of it,
run at the same times (`texts_determine`).
-/

namespace CronCalendar.Schedule
set_option autoImplicit false

open Field (Kind Expr)

variable {s t : Schedule}

/-- Two schedules have the same values and run at the same times, by the clocks of any zone. -/
structure RunsAlike (s t : Schedule) : Prop where
  values : ∀ kind, s.values kind = t.values kind
  matchesAt : ∀ z now, s.matchesAt z now = t.matchesAt z now
  nextRun : ∀ z now, s.nextRun z now = t.nextRun z now

/-- When a schedule runs is up to the values of its fields and to which of them are restricted. -/
theorem runsAlike_of_fields (values : ∀ kind, s.values kind = t.values kind)
    (restricted : ∀ kind, (s.field kind).isAny = (t.field kind).isAny) : RunsAlike s t := by
  have timetable : s.timetable = t.timetable := by
    simp only [Schedule.timetable, values, restricted]
  have valid : s.isFieldValid = t.isFieldValid := funext fun kind => by
    rw [isFieldValid, values, isFieldValid]
  have satisfiable : s.isSatisfiable = t.isSatisfiable := by rw [isSatisfiable, valid, isSatisfiable]
  refine ⟨values, fun z now => ?_, fun z now => ?_⟩
  · rw [Schedule.matchesAt, timetable, Schedule.matchesAt]
  · rw [Schedule.nextRun, satisfiable, timetable, Schedule.nextRun]

/-- A schedule has the texts of its default in all fields. -/
theorem sameText_of_matchesDefault (h : s.matchesDefault t = true) (kind : Kind) :
    (s.field kind).sameText (t.field kind) = true := by
  rw [matchesDefault, Bool.and_eq_true, List.all_eq_true] at h
  exact h.1 kind (by cases kind <;> decide)

/-- What is read back of a schedule has its values, up to sets on both sides of the bounds. -/
theorem values_reread_iff (s : Schedule) (kind : Kind) :
    s.reread.values kind = s.values kind ↔ ¬ Expr.Straddling kind (s.field kind) := by
  rw [values, field_reread, values, Kind.evaluate_reread_iff]

/-- Fields of one text are restricted alike, and have the same values unless they are torn. Reading a
schedule back changes the values of no other fields than sets on both sides of the bounds, and
nothing about its runs if there is no such set. A schedule that matches its default runs like the
default if no pair of their fields is torn. -/
theorem texts_determine (built : Built s) (built' : Built t) :
    (∀ kind, (s.field kind).sameText (t.field kind) = true →
        (s.field kind).isAny = (t.field kind).isAny ∧
          (s.values kind = t.values kind ↔ ¬ Expr.Torn kind (s.field kind) (t.field kind))) ∧
      (∃ u, parse? s.compactText = some u ∧
        (∀ kind, u.values kind = s.values kind ↔ ¬ Expr.Straddling kind (s.field kind)) ∧
        ((∀ kind, ¬ Expr.Straddling kind (s.field kind)) → RunsAlike u s)) ∧
      (s.matchesDefault t = true →
        (∀ kind, ¬ Expr.Torn kind (s.field kind) (t.field kind)) → RunsAlike s t) := by
  have fields : ∀ kind, (s.field kind).sameText (t.field kind) = true →
      (s.field kind).isAny = (t.field kind).isAny ∧
        (s.values kind = t.values kind ↔ ¬ Expr.Torn kind (s.field kind) (t.field kind)) :=
    fun kind same => Field.evaluate_eq_iff_of_toText (built.settled kind) (built'.settled kind)
      (eq_of_beq same)
  refine ⟨fields, ⟨s.reread, (parse_written built.settled).1, s.values_reread_iff, ?_⟩, ?_⟩
  · intro oneSided
    refine runsAlike_of_fields (fun kind => (s.values_reread_iff kind).2 (oneSided kind)) ?_
    intro kind
    rw [field_reread, Expr.isAny_reread]
  · intro same notTorn
    have each := fun kind => fields kind (sameText_of_matchesDefault same kind)
    exact runsAlike_of_fields (fun kind => (each kind).2.2 (notTorn kind)) fun kind => (each kind).1

/-- A schedule with a set of hours. -/
def ofHours (hours : List Nat) : Schedule :=
  ({ taskId := "t" } : Schedule).setValues .hour (.ofList hours)

/-- A schedule with the text of an expression for the hours. -/
def ofHourText (text : String) : Schedule := ({ taskId := "t" } : Schedule).setField .hour text

theorem built_ofHours (hours : List Nat) : Built (ofHours hours) := (Built.new _).setValues _ _

theorem built_ofHourText (text : String) : Built (ofHourText text) := (Built.new _).setField _ _

/-- The hours 0 and 5 run alike as a set, as a text and as what is read back of the set. -/
theorem hoursWithin_alike :
    Built (ofHours [0, 5]) ∧ Built (ofHourText "0,5") ∧
      (ofHours [0, 5]).matchesDefault (ofHourText "0,5") = true ∧
      RunsAlike (ofHours [0, 5]) (ofHourText "0,5") ∧
      ∃ u, parse? (ofHours [0, 5]).compactText = some u ∧ RunsAlike u (ofHours [0, 5]) := by
  have same : (ofHours [0, 5]).matchesDefault (ofHourText "0,5") = true := by decide +kernel
  have oneSided : ¬ Field.Straddles .hour (.ofList [0, 5]) := by
    rintro ⟨-, n, hn, outside⟩
    have atMost : ∀ n ∈ (Values.ofList [0, 5]).toList, n ≤ 23 := by decide +kernel
    exact outside ⟨Nat.zero_le n, atMost n hn⟩
  have notTorn : ∀ kind, ¬ Expr.Torn kind ((ofHours [0, 5]).field kind)
      ((ofHourText "0,5").field kind) := by
    intro kind torn
    cases kind with
    | hour =>
      have stored : (ofHours [0, 5]).field .hour = .values (.ofList [0, 5]) := rfl
      rw [stored] at torn
      cases torn with
      | setText straddles => exact oneSided straddles
    | _ => cases torn
  have notStraddling : ∀ kind, ¬ Expr.Straddling kind ((ofHours [0, 5]).field kind) := by
    rintro kind ⟨v, stored, straddles⟩
    cases kind with
    | hour => cases stored; exact oneSided straddles
    | _ => cases stored
  obtain ⟨-, ⟨u, read, -, alike⟩, default⟩ :=
    texts_determine (built_ofHours [0, 5]) (built_ofHourText "0,5")
  exact ⟨built_ofHours _, built_ofHourText _, same, default same notTorn, u, read, alike notStraddling⟩

/-- The hours 0, 5 and 40 as a set and as a text count as the same, but as a text they match nothing.
What is read back of the set never runs, and neither does the text with the set for its default. -/
theorem hoursBeyond_differ :
    Built (ofHours [0, 5, 40]) ∧ Built (ofHourText "0,5,40") ∧
      ((ofHours [0, 5, 40]).field .hour).sameText ((ofHourText "0,5,40").field .hour) = true ∧
      (ofHours [0, 5, 40]).values .hour = .ofList [0, 5] ∧
      (ofHourText "0,5,40").values .hour = .empty ∧
      (∃ u, parse? (ofHours [0, 5, 40]).compactText = some u ∧ u.values .hour = .empty ∧
        (ofHours [0, 5, 40]).matchesAt Zone.utc Instant.epoch = true ∧
        u.matchesAt Zone.utc Instant.epoch = false ∧
        (ofHours [0, 5, 40]).nextRun Zone.utc Instant.epoch ≠ never ∧
        u.nextRun Zone.utc Instant.epoch = never) ∧
      (ofHourText "0,5,40").matchesDefault (ofHours [0, 5, 40]) = true ∧
      (ofHourText "0,5,40").disabled = false ∧ (ofHours [0, 5, 40]).disabled = false ∧
      (ofHourText "0,5,40").nextRun Zone.utc Instant.epoch ≠
        (ofHours [0, 5, 40]).nextRun Zone.utc Instant.epoch := by
  refine ⟨built_ofHours _, built_ofHourText _, by decide +kernel, by decide +kernel,
    by decide +kernel, ⟨_, (parse_written (built_ofHours _).settled).1, ?_⟩, by decide +kernel, rfl,
    rfl, by decide +kernel⟩
  decide +kernel

end CronCalendar.Schedule
