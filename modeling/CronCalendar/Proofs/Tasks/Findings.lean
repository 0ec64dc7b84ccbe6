import CronCalendar.Proofs.Tasks.DrawnDefaults
import CronCalendar.Proofs.Text.Messages
import CronCalendar.Proofs.Text.NameMaps
import CronCalendar.Settings.Issues

/-!
# What the validation finds about tasks

The issues about schedules are the findings about the tasks, told one by one (`scheduleIssues_eq`), and an
issue tells which finding it is (`Finding.issue_injective`). The validation looks at a field as it is
written and passes over each `R`; the registry stores a drawn value for it, which its text matches. So a
field is found to match nothing just if the field of the registered default does, whatever is drawn
(`isEmpty_scheduleFrom_iff`). The findings come in the order of the tasks and of the fields, and that a
task never fires is found only if nothing is found about its fields (`reports_defaults`).
-/

namespace CronCalendar
set_option autoImplicit false

open Field (Kind)
open Random (Source)

/-- What the validation finds about a task. -/
inductive Finding where
  /-- A field matches nothing. -/
  | emptyField (id : String) (kind : Kind) (text : String)
  /-- The schedule of a line never fires. -/
  | neverFires (id line : String)

namespace Finding

/-- The task that it is about. -/
def id : Finding → String
  | emptyField id _ _ => id
  | neverFires id _ => id

/-- The issue that tells it. -/
def issue : Finding → Issue
  | emptyField id kind text =>
    ⟨.error, "tasks." ++ id ++ "." ++ kind.name, (Error.matchesNothing kind text).message⟩
  | neverFires id line => ⟨.error, "tasks." ++ id, "schedule '" ++ line ++ "' can never fire"⟩

/-- Tasks come in the order of their ids, and the fields of one task in the order of their kinds. -/
inductive Before : Finding → Finding → Prop
  | otherTask {f g : Finding} (lt : f.id < g.id) : Before f g
  | sameTask {id : String} {kind kind' : Kind} {text text' : String} (lt : kind.index < kind'.index) :
      Before (emptyField id kind text) (emptyField id kind' text')

variable {f g : Finding}

/-- No name of a field begins like a message about a schedule. -/
theorem emptyField_ne_neverFires {id id' text line : String} {kind : Kind} :
    (emptyField id kind text).issue ≠ (neverFires id' line).issue := by
  intro h
  have message := congrArg Issue.message h
  simp only [issue] at message
  rw [Error.message_matchesNothing] at message
  have first := congrArg (fun message => message.toList.head?) message
  cases kind <;> simp [Kind.name] at first

theorem issue_injective (h : f.issue = g.issue) : f = g := by
  cases f with
  | emptyField id kind text =>
    cases g with
    | emptyField id' kind' text' =>
      obtain ⟨rfl, rfl⟩ := Error.matchesNothing_message_inj (congrArg Issue.message h)
      have place := congrArg Issue.place h
      simp only [issue, String.append_left_inj, String.append_right_inj] at place
      rw [place]
    | neverFires id' line => exact absurd h emptyField_ne_neverFires
  | neverFires id line =>
    cases g with
    | emptyField id' kind text => exact absurd h.symm emptyField_ne_neverFires
    | neverFires id' line' =>
      simp only [issue, Issue.mk.injEq, true_and, String.append_left_inj, String.append_right_inj] at h
      rw [h.1, h.2]

/-- That a task never fires stands beside nothing else that is found about it. -/
theorem Before.lt_of_neverFires (before : f.Before g)
    (never : (∃ id line, f = neverFires id line) ∨ ∃ id line, g = neverFires id line) : f.id < g.id := by
  cases before with
  | otherTask lt => exact lt
  | sameTask lt => rcases never with ⟨_, _, h⟩ | ⟨_, _, h⟩ <;> cases h

end Finding

/-- The kinds of the fields of a task that match nothing. -/
def TaskDefaults.emptyKinds (t : TaskDefaults) : List Kind :=
  Kind.all.filter fun kind =>
    !Field.isRandom (t.field kind) && (kind.evaluate (.ofText (t.field kind))).isEmpty

namespace TaskDefaults

variable {t : TaskDefaults} {kind : Kind}

theorem mem_emptyKinds : kind ∈ t.emptyKinds ↔
    ¬(Field.isRandom (t.field kind) = true ∨ (kind.evaluate (.ofText (t.field kind))).isEmpty = false) := by
  rw [emptyKinds, List.mem_filter, and_iff_right kind.mem_all]
  simp

/-- The field of a default has no values just if its text matches nothing, whatever is drawn. -/
theorem isEmpty_scheduleFrom_iff {σ : Type} [Source σ] (id : String) (source : σ) :
    ((t.scheduleFrom id source).values kind).isEmpty = true ↔ kind ∈ t.emptyKinds := by
  obtain ⟨draws, within, drawn⟩ := t.exists_draws id source
  rw [drawn, Schedule.values, Schedule.field_of_texts (fields_withDraws t id draws), mem_emptyKinds,
    ← evaluate_drawnText (within kind), Bool.not_eq_false]

end TaskDefaults

namespace Settings

/-- What is found about a task: its fields that match nothing or, if there are none, that it never fires. -/
def taskFindings (z : Zone) (id : String) (t : TaskDefaults) : List Finding :=
  match t.emptyKinds with
  | [] =>
    if isNever ((concreteSchedule id t).nextRun z Instant.epoch) then
      [.neverFires id (concreteSchedule id t).line]
    else []
  | kinds => kinds.map fun kind => .emptyField id kind (t.field kind)

/-- What is found about all tasks. The time zone is UTC if its name is unknown. -/
def findings (s : Settings) (lookup : String → Option Zone) : List Finding :=
  s.tasks.entries.flatMap fun (id, t) => taskFindings ((lookup s.timezone).getD Zone.utc) id t

variable {s : Settings} {lookup : String → Option Zone} {z : Zone} {id : String} {t : TaskDefaults}
  {f : Finding}

theorem fieldIssue?_eq (kind : Kind) (text : String) : fieldIssue? id kind text =
    if !Field.isRandom text && (kind.evaluate (.ofText text)).isEmpty then
      some (Finding.emptyField id kind text).issue
    else none := by
  rw [fieldIssue?, validateField]
  cases Field.isRandom text <;> cases (kind.evaluate (.ofText text)).isEmpty <;> rfl

theorem fieldIssues_eq : fieldIssues id t =
    t.emptyKinds.map fun kind => (Finding.emptyField id kind (t.field kind)).issue := by
  rw [fieldIssues, TaskDefaults.fields, List.filterMap_map, TaskDefaults.emptyKinds, ← List.filterMap_eq_map,
    List.filterMap_filter]
  congr 1
  funext kind
  exact fieldIssue?_eq kind (t.field kind)

theorem taskIssues_eq : taskIssues z id t = (taskFindings z id t).map Finding.issue := by
  rw [taskIssues, taskFindings, fieldIssues_eq]
  cases t.emptyKinds with
  | nil =>
    simp only [List.map_nil, neverIssues]
    split <;> rfl
  | cons kind rest => simp

theorem scheduleIssues_eq (s : Settings) (lookup : String → Option Zone) :
    s.scheduleIssues lookup = (s.findings lookup).map Finding.issue := by
  rw [scheduleIssues, findings, List.map_flatMap]
  congr 1
  funext entry
  exact taskIssues_eq

/-- An issue is reported just if what it tells is found. -/
theorem issue_mem_iff : f.issue ∈ s.scheduleIssues lookup ↔ f ∈ s.findings lookup := by
  rw [scheduleIssues_eq, List.mem_map]
  exact ⟨fun ⟨g, mem, eq⟩ => Finding.issue_injective eq ▸ mem, fun mem => ⟨f, mem, rfl⟩⟩

theorem emptyField_mem_taskFindings {id' text : String} {kind : Kind} :
    Finding.emptyField id' kind text ∈ taskFindings z id t ↔
      id' = id ∧ kind ∈ t.emptyKinds ∧ text = t.field kind := by
  rw [taskFindings]
  cases t.emptyKinds with
  | nil => split <;> simp
  | cons first rest =>
    simp only [List.mem_map, Finding.emptyField.injEq]
    constructor
    · rintro ⟨_, mem, rfl, rfl, rfl⟩
      exact ⟨rfl, mem, rfl⟩
    · rintro ⟨rfl, mem, rfl⟩
      exact ⟨kind, mem, rfl, rfl, rfl⟩

theorem neverFires_mem_taskFindings {id' line : String} :
    Finding.neverFires id' line ∈ taskFindings z id t ↔
      t.emptyKinds = [] ∧ (concreteSchedule id t).nextRun z Instant.epoch = never ∧
        id' = id ∧ line = (concreteSchedule id t).line := by
  rw [taskFindings]
  cases t.emptyKinds with
  | nil => simp [isNever]
  | cons first rest => simp

theorem id_of_mem_taskFindings (mem : f ∈ taskFindings z id t) : f.id = id := by
  cases f with
  | emptyField => exact (emptyField_mem_taskFindings.1 mem).1
  | neverFires => exact (neverFires_mem_taskFindings.1 mem).2.2.1

/-- What is found about a task is found by its entry. -/
theorem mem_findings_iff : f ∈ s.findings lookup ↔ ∃ t, s.tasks.get? f.id = some t ∧
    f ∈ taskFindings ((lookup s.timezone).getD Zone.utc) f.id t := by
  simp only [findings, List.mem_flatMap, NameMap.get?_eq_some_iff]
  constructor
  · rintro ⟨⟨id, t⟩, entry, mem⟩
    obtain rfl := id_of_mem_taskFindings mem
    exact ⟨t, entry, mem⟩
  · rintro ⟨t, entry, mem⟩
    exact ⟨(f.id, t), entry, mem⟩

theorem taskFindings_pairwise : (taskFindings z id t).Pairwise Finding.Before := by
  have ordered : Kind.all.Pairwise fun kind kind' => kind.index < kind'.index := by decide
  have empty : t.emptyKinds.Pairwise fun kind kind' => kind.index < kind'.index := ordered.filter _
  rw [taskFindings]
  cases eq : t.emptyKinds with
  | nil =>
    dsimp only
    split <;> simp
  | cons first rest =>
    rw [eq] at empty
    exact List.pairwise_map.2 (empty.imp .sameTask)

theorem findings_pairwise (s : Settings) (lookup : String → Option Zone) :
    (s.findings lookup).Pairwise Finding.Before := by
  refine List.pairwise_flatMap.2 ⟨fun _ _ => taskFindings_pairwise, s.tasks.ascending.imp ?_⟩
  intro entry entry' lt f mem g mem'
  refine .otherTask ?_
  rwa [id_of_mem_taskFindings mem, id_of_mem_taskFindings mem']

theorem scheduleIssues_pairwise (s : Settings) (lookup : String → Option Zone) :
    (s.scheduleIssues lookup).Pairwise fun issue issue' =>
      ∀ f g : Finding, f.issue = issue → g.issue = issue' → f.Before g := by
  rw [scheduleIssues_eq, List.pairwise_map]
  refine (s.findings_pairwise lookup).imp fun before f' g' eq eq' => ?_
  rwa [Finding.issue_injective eq, Finding.issue_injective eq']

/-- A field is reported with its text, just if it matches nothing. -/
theorem emptyField_issue_mem_iff (entry : s.tasks.get? id = some t) {kind : Kind} {text : String} :
    (Finding.emptyField id kind text).issue ∈ s.scheduleIssues lookup ↔
      kind ∈ t.emptyKinds ∧ text = t.field kind := by
  simp only [issue_mem_iff, mem_findings_iff, Finding.id, entry, Option.some.injEq, exists_eq_left',
    emptyField_mem_taskFindings, true_and]

/-- What the validation of settings reports about the defaults of their tasks. -/
structure ReportsDefaults (s : Settings) (lookup : String → Option Zone) : Prop where
  /-- A field is reported just if the one of the registered default has no values, -/
  registered (id : String) (kind : Kind) :
    (∃ text, (Finding.emptyField id kind text).issue ∈ s.scheduleIssues lookup) ↔
      ∃ default, s.registry.default? id = some default ∧ (default.values kind).isEmpty = true
  /-- whatever source the random fields of the default are drawn from. -/
  drawn {σ : Type} [Source σ] (source : σ) (id : String) (kind : Kind) (t : TaskDefaults) :
    s.tasks.get? id = some t →
      ((Finding.emptyField id kind (t.field kind)).issue ∈ s.scheduleIssues lookup ↔
        ((t.scheduleFrom id source).values kind).isEmpty = true)
  /-- Nothing else is reported than fields and schedules of tasks, each once and in order. -/
  ordered : ∃ findings : List Finding, s.scheduleIssues lookup = findings.map Finding.issue ∧
    (∀ f ∈ findings, ∃ t, s.tasks.get? f.id = some t) ∧ findings.Pairwise Finding.Before
  /-- That a schedule never fires is reported once for a task, -/
  once (id line line' : String) :
    ¬[(Finding.neverFires id line).issue, (Finding.neverFires id line').issue].Sublist
      (s.scheduleIssues lookup)
  /-- and for a task none of whose fields is reported. -/
  never (id line : String) : (Finding.neverFires id line).issue ∈ s.scheduleIssues lookup →
    ∀ kind text, (Finding.emptyField id kind text).issue ∉ s.scheduleIssues lookup

theorem reports_defaults (s : Settings) (lookup : String → Option Zone) : s.ReportsDefaults lookup where
  registered id kind := by
    have held : s.registry.default? id = (s.tasks.get? id).map (·.schedule id) := NameMap.get?_map
    rw [held]
    cases entry : s.tasks.get? id with
    | none => simp [issue_mem_iff, mem_findings_iff, Finding.id, entry]
    | some t =>
      have default : ((t.schedule id).values kind).isEmpty = true ↔ kind ∈ t.emptyKinds :=
        TaskDefaults.isEmpty_scheduleFrom_iff id _
      simp [emptyField_issue_mem_iff entry, default]
  drawn source id kind t entry := by
    rw [emptyField_issue_mem_iff entry, and_iff_left rfl, TaskDefaults.isEmpty_scheduleFrom_iff]
  ordered := by
    refine ⟨s.findings lookup, s.scheduleIssues_eq lookup, fun f mem => ?_, s.findings_pairwise lookup⟩
    obtain ⟨t, entry, -⟩ := mem_findings_iff.1 mem
    exact ⟨t, entry⟩
  once id line line' sublist := by
    have pair := (s.scheduleIssues_pairwise lookup).sublist sublist
    rw [List.pairwise_pair] at pair
    have lt : id < id := (pair _ _ rfl rfl).lt_of_neverFires (.inl ⟨id, line, rfl⟩)
    exact String.lt_irrefl id lt
  never id line reported kind text reported' := by
    obtain ⟨t, entry, mem⟩ := mem_findings_iff.1 (issue_mem_iff.1 reported)
    have none : t.emptyKinds = [] := (neverFires_mem_taskFindings.1 mem).1
    have some : kind ∈ t.emptyKinds := ((emptyField_issue_mem_iff entry).1 reported').1
    rw [none] at some
    cases some

example : ({ tasks := .ofList [("sweep", { minute := "61", hour := " R ", month := "R R" }),
    ("leap", { day := "30", month := "2" })] : Settings }).scheduleIssues (fun _ => some .utc) =
    [.neverFires "leap" "* * 30 2 *", .emptyField "sweep" .minute "61",
      .emptyField "sweep" .month "R R"].map Finding.issue := by decide +kernel

end Settings

end CronCalendar
