import CronCalendar.Proofs.Calendar.Timestamps
import CronCalendar.Proofs.Json.Reading
import CronCalendar.Proofs.Schedule.Histories

/-!
# Schedules read back

A schedule is read back from what is written for it (`ofJson_toJson`), member by member: each
member is set to what it was, and a field to what its own text says (`Schedule.reread`). So the text
of a schedule, on one line or over several, is read as a schedule that agrees with it in everything
that is written (`written_read`), and so is the text of a list of schedules (`parseList_listText`).
-/

namespace CronCalendar.Schedule
set_option autoImplicit false

open Field (Kind Expr)

variable {s t u : Schedule}

/-- The schedule whose fields are set from their own texts. -/
def reread (s : Schedule) : Schedule :=
  { s with fields :=
    { minute := s.fields.minute.reread
      hour := s.fields.hour.reread
      day := s.fields.day.reread
      month := s.fields.month.reread
      dayOfWeek := s.fields.dayOfWeek.reread } }

@[simp] theorem field_reread (s : Schedule) (kind : Kind) : s.reread.field kind = (s.field kind).reread := by
  cases kind <;> rfl

@[simp] theorem expression_reread (s : Schedule) (kind : Kind) :
    s.reread.expression kind = s.expression kind := by
  rw [expression, field_reread, Expr.toText_reread]
  rfl

@[simp] theorem memberToJson_reread (s : Schedule) (m : Member) :
    s.reread.memberToJson m = s.memberToJson m := by
  cases m with
  | field kind => exact congrArg Json.ofText (expression_reread s kind)
  | _ => rfl

@[simp] theorem toJson_reread (s : Schedule) : s.reread.toJson = s.toJson := by
  simp only [toJson, memberToJson_reread]

/-- The schedule `t` with one member as it is in `u`. -/
def copy (t u : Schedule) : Member → Schedule
  | .taskId => { t with taskId := u.taskId }
  | .component => { t with component := u.component }
  | .field kind => t.setExpr kind (u.field kind)
  | .disabled => { t with disabled := u.disabled }
  | .customised => { t with customised := u.customised }
  | .overridden => { t with overridden := u.overridden }
  | .lastRun => { t with lastRun := u.lastRun }
  | .runIfComponentDisabled => { t with runIfComponentDisabled := u.runIfComponentDisabled }

/-- A schedule is all of its members. -/
theorem copy_all (t u : Schedule) : Member.all.foldl (fun t m => t.copy u m) t = u := by
  simp only [Member.all, List.foldl_cons, List.foldl_nil, copy, setExpr, Fields.set, field,
    Fields.get]

theorem lastRunOfJson_toJson (lastRun : Option Instant) :
    lastRunOfJson? (lastRunToJson lastRun) = some lastRun := by
  cases lastRun with
  | none => rfl
  | some t =>
    simp only [lastRunToJson, Json.ofText, lastRunOfJson?, String.toList_ofList,
      Timestamp.readLenient_text, Option.map_some]

/-- A member is set to what is written for it. -/
theorem setMember_written (settled : s.Settled) (t : Schedule) (m : Member) :
    t.setMember? m (s.memberToJson m) = some (t.copy s.reread m) := by
  cases m with
  | field kind =>
    have read : Expr.ofText (s.expression kind) = s.reread.field kind := by
      rw [field_reread, ← Expr.ofText_toText (settled kind), expression]
    simp only [memberToJson, Json.ofText, setMember?, setField, copy, read]
  | lastRun =>
    simp only [memberToJson, setMember?, lastRunOfJson_toJson, Option.map_some]
    rfl
  | _ => rfl

/-- Members are set one after the other to what is written for them. -/
theorem setMembers_written (settled : s.Settled) (t : Schedule) (ms : List Member) :
    t.setMembers? (ms.map fun m => (m, s.memberToJson m)) =
      some (ms.foldl (fun t m => t.copy s.reread m) t) := by
  induction ms generalizing t with
  | nil => rfl
  | cons m ms ih =>
    rw [List.map_cons, setMembers?, setMember_written settled, Option.bind_some, ih, List.foldl_cons]

theorem ofKey_key (m : Member) : Member.ofKey? m.key = some m := by
  cases m with
  | field kind => cases kind <;> decide
  | _ => decide

/-- All written members count. -/
theorem knownMembers_written (value : Member → Json) (ms : List Member) :
    knownMembers? (ms.map fun m => (some m.key, value m)) = some (ms.map fun m => (m, value m)) := by
  induction ms with
  | nil => rfl
  | cons m ms ih => simp only [List.map_cons, knownMembers?, ofKey_key, ih, Option.map_some]

/-- A schedule is read back from its JSON value. -/
theorem ofJson_toJson (settled : s.Settled) : ofJson? s.toJson = some s.reread := by
  have names : (Member.all.map fun m => (m, s.memberToJson m)).map Prod.fst = Member.all := by
    rw [List.map_map]
    exact List.map_id _
  have each : Member.taskId ∈ Member.all ∧ Member.all.Nodup := by decide
  rw [toJson, ofJson?, knownMembers_written, Option.bind_some]
  simp only [ofMembers?, names, if_pos each, setMembers_written settled, copy_all]

theorem plain_memberToJson (s : Schedule) (m : Member) : (s.memberToJson m).Plain := by
  cases m with
  | lastRun =>
    rw [memberToJson, lastRunToJson.eq_def]
    split
    · trivial
    · rfl
  | disabled | customised | overridden | runIfComponentDisabled => trivial
  | taskId | component | field _ => rfl

theorem plain_toJson (s : Schedule) : s.toJson.Plain := by
  have members : ∀ ms : List Member,
      Json.PlainMembers (ms.map fun m => (some m.key, s.memberToJson m)) := by
    intro ms
    induction ms with
    | nil => trivial
    | cons m ms ih => exact ⟨rfl, plain_memberToJson s m, ih⟩
  exact members Member.all

/-- Both texts of a schedule are read as the schedule. -/
theorem parse_written (settled : s.Settled) :
    parse? s.compactText = some s.reread ∧
      parse? (String.ofList s.toJson.pretty) = some s.reread := by
  constructor
  · rw [parse?, compactText, String.toList_ofList, Json.parse_compact s.plain_toJson,
      Option.bind_some, ofJson_toJson settled]
  · rw [parse?, String.toList_ofList, Json.parse_pretty s.plain_toJson, Option.bind_some,
      ofJson_toJson settled]

/-- A list of schedules is read back from its text. -/
theorem parseList_listText {ss : List Schedule} (settled : ∀ s ∈ ss, s.Settled) :
    parseList? (listText ss) = some (ss.map reread) := by
  have plain : (Json.array (ss.map toJson)).Plain := by
    have items : ∀ ss : List Schedule, Json.PlainItems (ss.map toJson) := by
      intro ss
      induction ss with
      | nil => trivial
      | cons s ss ih => exact ⟨s.plain_toJson, ih⟩
    exact items ss
  have read : (ss.map toJson).mapM ofJson? = some (ss.map reread) := by
    induction ss with
    | nil => rfl
    | cons s ss ih =>
      have rest := ih (fun s hs => settled s (List.mem_cons_of_mem _ hs)) plain.2
      simp only [List.map_cons, List.mapM_cons, ofJson_toJson (settled s List.mem_cons_self), rest]
      rfl
  simp only [parseList?, listText, String.toList_ofList, Json.parse_pretty plain, read]

/-- The schedule `t` agrees with `s` in everything that is written. -/
structure Alike (t s : Schedule) : Prop where
  taskId : t.taskId = s.taskId
  component : t.component = s.component
  expression : ∀ kind, t.expression kind = s.expression kind
  disabled : t.disabled = s.disabled
  customised : t.customised = s.customised
  overridden : t.overridden = s.overridden
  lastRun : t.lastRun = s.lastRun
  runIfComponentDisabled : t.runIfComponentDisabled = s.runIfComponentDisabled

theorem reread_alike (s : Schedule) : s.reread.Alike s where
  taskId := rfl
  component := rfl
  expression := expression_reread s
  disabled := rfl
  customised := rfl
  overridden := rfl
  lastRun := rfl
  runIfComponentDisabled := rfl

/-- However a schedule comes about, both of its texts are read as a schedule that agrees with it, and
writing that schedule again gives the same texts. -/
theorem written_read (built : Built s) :
    ∃ t, parse? s.compactText = some t ∧ parse? (String.ofList s.toJson.pretty) = some t ∧
      t.Alike s ∧ t.compactText = s.compactText ∧ t.toJson.pretty = s.toJson.pretty := by
  obtain ⟨compact, pretty⟩ := parse_written built.settled
  refine ⟨s.reread, compact, pretty, reread_alike s, ?_, ?_⟩
  · rw [compactText, toJson_reread]
    rfl
  · rw [toJson_reread]

/-- A schedule with a set, a text, marks and signs of all kinds in its names, and a last run in a year
before the first. -/
def stored : Schedule :=
  { (({ taskId := "\"dump\\\x01\n😀", component := "日本" } : Schedule).setValues .hour
      (.ofList [5, 40])).setField .minute " */7\t" with
    overridden := true
    lastRun := some ⟨-62167219201, 250000000, by decide, by decide, by decide⟩ }

theorem built_stored : Built stored := by
  have named : Built { taskId := "\"dump\\\x01\n😀", component := "日本" } := (Built.new _).component _
  have timed := (named.setValues .hour (.ofList [5, 40])).setField .minute " */7\t"
  exact (timed.overridden true).lastRun _

/-- Its name is written with escapes, its set as a text and its last run with a sign and a fraction, and
all of them are read back. -/
theorem stored_read :
    Built stored ∧
      ∃ t, parse? stored.compactText = some t ∧ parse? (String.ofList stored.toJson.pretty) = some t ∧
        t.Alike stored ∧ t.compactText = stored.compactText ∧
        t.toJson.pretty = stored.toJson.pretty := ⟨built_stored, written_read built_stored⟩

end CronCalendar.Schedule
