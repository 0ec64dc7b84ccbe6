import CronCalendar.Proofs.Schedule.Switching

/-!
# The copies that are saved

A schedule is edited, and enabled, disabled and brought in step with its default, any number of times,
while defaults come and go and the journal takes copies or refuses them. A run is the list of what was
recorded of each event. The copies that the journal holds at the end are those of the requests to enable
or disable that worked, each as the schedule was right behind the request, and every single event kept to
the rules (`copies_of_run`).
-/

namespace CronCalendar.Registry
set_option autoImplicit false

/-- A schedule, and what its requests depend on. -/
structure Situation where
  schedule : Schedule
  registry : Registry
  journal : Journal

/-- What can happen to a schedule, or around it. -/
inductive Event where
  | request (q : Request)
  /-- The schedule is edited: its fields, its flags or anything else. -/
  | edited (change : Schedule → Schedule)
  /-- Defaults are registered or forgotten, components are enabled or disabled. -/
  | registered (change : Registry → Registry)
  /-- The journal refuses copies from now on, or takes them. -/
  | refusing (refusal : Option String)

/-- What an event is answered, and the situation that it leads to. -/
def Situation.respond (before : Situation) : Event → Except Error Unit × Situation
  | .request q =>
    let ((answer, schedule), journal) :=
      (before.registry.answer Journal.save before.schedule q : StateM Journal _) before.journal
    (answer, { before with schedule, journal })
  | .edited change => (.ok (), { before with schedule := change before.schedule })
  | .registered change => (.ok (), { before with registry := change before.registry })
  | .refusing refusal => (.ok (), { before with journal := { before.journal with refusal } })

/-- What is recorded of an event. -/
structure Record where
  before : Situation
  event : Event
  answer : Except Error Unit
  after : Situation

/-- The records of the events that happen one after the other. -/
def run (before : Situation) : List Event → List Record
  | [] => []
  | event :: events =>
    let (answer, after) := before.respond event
    ⟨before, event, answer, after⟩ :: run after events

/-- The situation behind the last event. -/
def final (before : Situation) : List Event → Situation
  | [] => before
  | event :: events => final (before.respond event).2 events

/-- The copy that is owed to a request with an answer and the schedule right behind it: the schedule, if
it was to be enabled or disabled and that worked. -/
def Request.copy? (q : Request) (answer : Except Error Unit) (after : Schedule) : Option Schedule :=
  match answer with
  | .ok () => q.disabled?.map fun _ => after
  | .error _ => none

/-- A request was answered by the rules. -/
structure Answered (q : Request) (before : Situation) (answer : Except Error Unit) (after : Situation) :
    Prop where
  /-- It works unless the task has no default, or a copy is to be saved and refused. -/
  works : answer = .ok () ↔ (before.registry.default? before.schedule.taskId).isSome ∧
    (q.disabled?.isSome → before.journal.refusal = none)
  /-- If it worked, the schedule has the flag that was asked for. -/
  disabled : ∀ flag, q.disabled? = some flag → answer = .ok () → after.schedule.disabled = flag
  /-- If it worked, the schedule says whether it differs from the default of that moment. -/
  customised : answer = .ok () →
    after.registry.hasDefaultConfiguration after.schedule = .ok (!after.schedule.customised)
  /-- The journal gains the copy that is owed, and no other. -/
  copies : after.journal.copies = (q.copy? answer after.schedule).toList ++ before.journal.copies
  /-- Whatever the answer, the schedule keeps everything but the two flags. -/
  keeps : after.schedule = { before.schedule with
    disabled := after.schedule.disabled, customised := after.schedule.customised }
  /-- A schedule that is brought in step with its default keeps its `disabled` flag as well. -/
  keeps_disabled : q.disabled? = none → after.schedule.disabled = before.schedule.disabled
  registry : after.registry = before.registry
  refusal : after.journal.refusal = before.journal.refusal

namespace Record

/-- The copy that is owed to an event. -/
def copy? (record : Record) : Option Schedule :=
  match record.event with
  | .request q => q.copy? record.answer record.after.schedule
  | _ => none

/-- The event kept to the rules. -/
structure Regular (record : Record) : Prop where
  copies : record.after.journal.copies = record.copy?.toList ++ record.before.journal.copies
  requests : ∀ q, record.event = .request q → Answered q record.before record.answer record.after

end Record

variable {q : Request} {r : Registry} {s default : Schedule} {j : Journal}

/-- A schedule that was compared with its default is in step with it. -/
theorem inStep_of_compared (known : r.default? s.taskId = some default) :
    r.hasDefaultConfiguration { s with customised := !s.matchesDefault default } =
      .ok (!!s.matchesDefault default) := by
  rw [Bool.not_not]
  exact hasDefaultConfiguration_of_known known

/-- The journal takes a copy unless it has a reason to refuse it. -/
theorem save_cases (s : Schedule) (j : Journal) :
    j.refusal = none ∧ Journal.save s j = (.ok (), ⟨s :: j.copies, none⟩) ∨
      ∃ reason, j.refusal = some reason ∧ Journal.save s j = (.error (.notSaved reason), j) := by
  unfold Journal.save
  cases j.refusal with
  | none => exact .inl ⟨rfl, rfl⟩
  | some reason => exact .inr ⟨reason, rfl, rfl⟩

theorem answered_of_unknown (unknown : r.default? s.taskId = none) :
    Answered q ⟨s, r, j⟩ (.error (.noDefault s.taskId)) ⟨s, r, j⟩ where
  works := iff_of_false (fun worked => nomatch worked) fun ⟨found, _⟩ => by
    rw [unknown] at found
    cases found
  disabled _ _ worked := nomatch worked
  customised worked := nomatch worked
  copies := rfl
  keeps := rfl
  keeps_disabled _ := rfl
  registry := rfl
  refusal := rfl

theorem answered_of_refresh (known : r.default? s.taskId = some default) (asked : q.disabled? = none) :
    Answered q ⟨s, r, j⟩ (.ok ()) ⟨{ s with customised := !s.matchesDefault default }, r, j⟩ where
  works := iff_of_true rfl ⟨by rw [known]; rfl, fun saves => by rw [asked] at saves; cases saves⟩
  disabled flag switches := by
    rw [asked] at switches
    cases switches
  customised _ := inStep_of_compared known
  copies := by
    rw [Request.copy?, asked]
    rfl
  keeps := rfl
  keeps_disabled _ := rfl
  registry := rfl
  refusal := rfl

theorem answered_of_switch (known : r.default? s.taskId = some default) {flag : Bool}
    (asked : q.disabled? = some flag) :
    let s' := withDisabled s default flag
    Answered q ⟨s, r, j⟩ (Journal.save s' j).1 ⟨s', r, (Journal.save s' j).2⟩ := by
  have found : (r.default? s.taskId).isSome := by rw [known]; rfl
  have saves : q.disabled?.isSome := by rw [asked]; rfl
  have keeps_disabled (none : q.disabled? = none) : flag = s.disabled := by
    rw [asked] at none
    cases none
  dsimp only
  rcases save_cases (withDisabled s default flag) j with ⟨taken, saved⟩ | ⟨reason, refused, saved⟩
  · rw [saved]
    exact {
      works := iff_of_true rfl ⟨found, fun _ => taken⟩
      disabled := fun other switches _ => Option.some.inj (asked.symm.trans switches)
      customised := fun _ => inStep_of_compared (s := { s with disabled := flag }) known
      copies := by
        rw [Request.copy?, asked]
        rfl
      keeps := rfl
      keeps_disabled
      registry := rfl
      refusal := taken.symm }
  · rw [saved]
    exact {
      works := iff_of_false (fun worked => nomatch worked) fun ⟨_, takes⟩ => by
        rw [takes saves] at refused
        cases refused
      disabled := fun _ _ worked => nomatch worked
      customised := fun worked => nomatch worked
      copies := rfl
      keeps := rfl
      keeps_disabled
      registry := rfl
      refusal := rfl }

/-- A request is answered by the rules, whether or not its task is known and its copy is taken. -/
theorem answered_of_respond (before : Situation) (q : Request) :
    Answered q before (before.respond (.request q)).1 (before.respond (.request q)).2 := by
  obtain ⟨s, r, j⟩ := before
  rw [Situation.respond]
  cases known : r.default? s.taskId with
  | none =>
    rw [answer_of_unknown known]
    exact answered_of_unknown known
  | some default =>
    cases asked : q.disabled? with
    | none =>
      rw [answer_of_refresh known asked]
      exact answered_of_refresh known asked
    | some flag =>
      rw [answer_of_switch known asked]
      exact answered_of_switch known asked

/-- Every event keeps to the rules. -/
theorem regular_of_respond (before : Situation) (event : Event) :
    Record.Regular ⟨before, event, (before.respond event).1, (before.respond event).2⟩ := by
  cases event with
  | request q =>
    have answered := answered_of_respond before q
    refine ⟨answered.copies, ?_⟩
    rintro _ ⟨⟩
    exact answered
  | edited change | registered change | refusing refusal => exact ⟨rfl, fun _ other => nomatch other⟩

/-- The journal holds the copies that are owed to the events, the latest first, before those that it
held already, and every event keeps to the rules. -/
theorem copies_of_run (start : Situation) (events : List Event) :
    (final start events).journal.copies =
        ((run start events).filterMap Record.copy?).reverse ++ start.journal.copies ∧
      ∀ record ∈ run start events, record.Regular := by
  induction events generalizing start with
  | nil => exact ⟨rfl, fun _ none => nomatch none⟩
  | cons event events ih =>
    have first := regular_of_respond start event
    obtain ⟨copies, regular⟩ := ih (start.respond event).2
    refine ⟨?_, List.forall_mem_cons.2 ⟨first, regular⟩⟩
    rw [final, copies, first.copies, run, List.filterMap_cons]
    dsimp only
    cases Record.copy? ⟨start, event, (start.respond event).1, (start.respond event).2⟩ with
    | none => rfl
    | some copy =>
      dsimp only
      rw [List.reverse_cons, List.append_assoc]
      rfl

/-- Of two requests, the one whose copy was refused left none. -/
example : (final ⟨{ taskId := "t" }, unrestricted, .empty⟩
      [.request .disable, .refusing (some "disk full"), .request .enable, .request .refresh]).journal.copies =
    [{ taskId := "t", disabled := true, customised := true }] := by decide +kernel

end CronCalendar.Registry
