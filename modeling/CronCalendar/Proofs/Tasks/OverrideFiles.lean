import CronCalendar.Proofs.Files.Written
import CronCalendar.Proofs.Schedule.Documents
import CronCalendar.Proofs.Text.NameMaps
import CronCalendar.Tasks.Overrides

/-!
# Overrides and their file

What opening, saving and removing do to the overrides and to the files of a tree. Overrides that are
`Orderly` are kept under the ids of their own tasks and marked as overrides; opening a file gives
such overrides, and saving and removing leave them so. After a change was written, the file lists the
overrides as they are read back from their texts (`listed_of_persist`), and these make up the same
overrides again (`ofSchedules_list_reread`).
-/

namespace CronCalendar
set_option autoImplicit false

namespace Schedule

variable {s t u : Schedule}

theorem Alike.refl (s : Schedule) : s.Alike s := ⟨rfl, rfl, fun _ => rfl, rfl, rfl, rfl, rfl, rfl⟩

theorem Alike.symm (alike : s.Alike t) : t.Alike s where
  taskId := alike.taskId.symm
  component := alike.component.symm
  expression kind := (alike.expression kind).symm
  disabled := alike.disabled.symm
  customised := alike.customised.symm
  overridden := alike.overridden.symm
  lastRun := alike.lastRun.symm
  runIfComponentDisabled := alike.runIfComponentDisabled.symm

theorem Alike.trans (first : s.Alike t) (second : t.Alike u) : s.Alike u where
  taskId := first.taskId.trans second.taskId
  component := first.component.trans second.component
  expression kind := (first.expression kind).trans (second.expression kind)
  disabled := first.disabled.trans second.disabled
  customised := first.customised.trans second.customised
  overridden := first.overridden.trans second.overridden
  lastRun := first.lastRun.trans second.lastRun
  runIfComponentDisabled := first.runIfComponentDisabled.trans second.runIfComponentDisabled

/-- The last of some schedules that is one of a task. -/
def lastOf (ss : List Schedule) (taskId : String) : Option Schedule :=
  ss.reverse.find? (·.taskId == taskId)

theorem lastOf_cons (s : Schedule) (ss : List Schedule) (taskId : String) :
    lastOf (s :: ss) taskId = (lastOf ss taskId).or (if s.taskId = taskId then some s else none) := by
  simp only [lastOf, List.reverse_cons, List.find?_append, List.find?_singleton, beq_iff_eq]

theorem mem_of_lastOf {ss : List Schedule} {taskId : String} (found : lastOf ss taskId = some s) :
    s ∈ ss ∧ s.taskId = taskId :=
  ⟨List.mem_reverse.1 (List.mem_of_find?_eq_some found), by simpa using List.find?_some found⟩

theorem exists_lastOf {ss : List Schedule} (mem : s ∈ ss) : ∃ u, lastOf ss s.taskId = some u := by
  have found : (lastOf ss s.taskId).isSome := by
    rw [lastOf, List.find?_isSome]
    exact ⟨s, List.mem_reverse.2 mem, beq_self_eq_true _⟩
  exact Option.isSome_iff_exists.1 found

theorem settled_of_mapM {items : List Json} {ss : List Schedule}
    (read : items.mapM ofJson? = some ss) : ∀ s ∈ ss, s.Settled := by
  induction items generalizing ss with
  | nil => cases read; simp
  | cons j items ih =>
    rw [List.mapM_cons] at read
    obtain ⟨s, first, read⟩ := Option.bind_eq_some_iff.1 read
    obtain ⟨rest, others, eq⟩ := Option.bind_eq_some_iff.1 read
    cases eq
    exact List.forall_mem_cons.2 ⟨settled_ofJson first, ih others⟩

/-- Schedules read from a text are settled. -/
theorem settled_of_parseList {text : String} {ss : List Schedule}
    (read : parseList? text = some ss) : ∀ s ∈ ss, s.Settled := by
  unfold parseList? at read
  split at read
  · exact settled_of_mapM read
  · cases read

end Schedule

/-- The schedules that the file at a path lists, if it lists any. Where nothing stands, none are
listed. -/
def Tree.listed? (t : Tree) (path : String) : Option (List Schedule) :=
  if t.present path then
    match t.read path with
    | .ok text => Schedule.parseList? text
    | .error _ => none
  else some []

/-- A run that succeeds gives its answer and what it leaves. -/
theorem run_eq_of_isOk {α β γ : Type} {run : (Except Error α × β) × γ} (ok : run.1.1.isOk = true) :
    ∃ a, run = ((.ok a, run.1.2), run.2) := by
  obtain ⟨⟨answer, b⟩, c⟩ := run
  cases answer with
  | error e => cases ok
  | ok a => exact ⟨a, rfl⟩

namespace Overrides

variable {o o' : Overrides} {t t' : Tree} {path taskId : String} {s : Schedule} {ss : List Schedule}

/-- Opening reads the schedules that the file lists, and leaves the files alone. -/
theorem openAt_eq_ok_iff :
    (openAt path : StateM Tree (Except Error Overrides)) t = (.ok o, t') ↔
      t' = t ∧ ∃ ss, t.listed? path = some ss ∧ o = ofSchedules path ss := by
  have answers (answer : Except Error Overrides) :
      (pure answer : StateM Tree (Except Error Overrides)) t = (.ok o, t') ↔
        t' = t ∧ answer = .ok o := by
    show (answer, t) = (.ok o, t') ↔ _
    rw [Prod.mk.injEq, and_comm, eq_comm (a := t)]
  simp only [openAt, Tree.listed?, bind, StateT.bind, Files.present]
  split
  · simp only [StateT.bind, Files.read]
    cases t.read path with
    | error cause => exact (answers _).trans (by simp)
    | ok text =>
      simp only [bind]
      cases Schedule.parseList? text with
      | none => exact (answers _).trans (by simp)
      | some ss => exact (answers _).trans (by simp [eq_comm])
  · exact (answers _).trans (by simp [eq_comm, ofSchedules])

/-- The overrides with a schedule kept as the override of its task. -/
def keeping (o : Overrides) (s : Schedule) : Overrides := { o with schedules := keep o.schedules s }

/-- The overrides without the one of a task. -/
def dropping (o : Overrides) (taskId : String) : Overrides :=
  { o with schedules := o.schedules.erase taskId }

/-- The overrides as they are read back from their own texts. -/
def reread (o : Overrides) : Overrides :=
  { o with schedules := o.schedules.map fun _ => Schedule.reread }

theorem get?_keeping : (o.keeping s).get? taskId =
    if taskId = s.taskId then some { s with overridden := true } else o.get? taskId :=
  NameMap.get?_insert

theorem get?_dropping (dropped : String) :
    (o.dropping dropped).get? taskId = if taskId = dropped then none else o.get? taskId :=
  NameMap.get?_erase

theorem get?_reread : o.reread.get? taskId = (o.get? taskId).map Schedule.reread := NameMap.get?_map

theorem get?_foldl_keep (m : NameMap Schedule) :
    (ss.foldl keep m).get? taskId =
      ((Schedule.lastOf ss taskId).map fun s => { s with overridden := true }).or (m.get? taskId) := by
  induction ss generalizing m with
  | nil => rfl
  | cons s ss ih =>
    rw [List.foldl_cons, ih, Schedule.lastOf_cons, keep, NameMap.get?_insert]
    cases Schedule.lastOf ss taskId with
    | some u => rfl
    | none =>
      by_cases eq : s.taskId = taskId
      · rw [if_pos eq, if_pos eq.symm]
        rfl
      · rw [if_neg eq, if_neg (Ne.symm eq)]
        rfl

/-- Of some schedules, the last one of a task is its override. -/
theorem get?_ofSchedules : (ofSchedules path ss).get? taskId =
    (Schedule.lastOf ss taskId).map fun s => { s with overridden := true } := by
  rw [get?, ofSchedules, get?_foldl_keep, NameMap.get?_empty, Option.or_none]

/-- Each override is kept under the id of its own task. -/
structure Keyed (o : Overrides) : Prop where
  keyed : ∀ {taskId s}, o.get? taskId = some s → s.taskId = taskId

theorem keyed_ofSchedules : (ofSchedules path ss).Keyed := by
  refine ⟨fun {taskId s} held => ?_⟩
  rw [get?_ofSchedules, Option.map_eq_some_iff] at held
  obtain ⟨u, found, rfl⟩ := held
  exact (Schedule.mem_of_lastOf found).2

theorem Keyed.keeping (keyed : o.Keyed) (s : Schedule) : (o.keeping s).Keyed := by
  refine ⟨fun {taskId u} held => ?_⟩
  rw [get?_keeping] at held
  split at held
  · cases held
    exact (‹taskId = s.taskId›).symm
  · exact keyed.keyed held

theorem Keyed.dropping (keyed : o.Keyed) (dropped : String) : (o.dropping dropped).Keyed := by
  refine ⟨fun {taskId u} held => ?_⟩
  rw [get?_dropping] at held
  split at held
  · cases held
  · exact keyed.keyed held

/-- Each override is kept under the id of its own task and marked as one, and its fields are as they
are stored. -/
structure Orderly (o : Overrides) : Prop extends Keyed o where
  marked : ∀ {taskId s}, o.get? taskId = some s → s.overridden = true
  settled : ∀ {taskId s}, o.get? taskId = some s → s.Settled

theorem orderly_ofSchedules (settled : ∀ s ∈ ss, s.Settled) : (ofSchedules path ss).Orderly := by
  have origin {taskId s} (held : (ofSchedules path ss).get? taskId = some s) :
      ∃ u ∈ ss, s = { u with overridden := true } := by
    rw [get?_ofSchedules, Option.map_eq_some_iff] at held
    obtain ⟨u, found, rfl⟩ := held
    exact ⟨u, (Schedule.mem_of_lastOf found).1, rfl⟩
  refine ⟨keyed_ofSchedules, ?_, ?_⟩
  all_goals
    intro taskId s held
    obtain ⟨u, mem, rfl⟩ := origin held
  · rfl
  · exact settled u mem

theorem Orderly.keeping (orderly : o.Orderly) (settled : s.Settled) : (o.keeping s).Orderly := by
  refine ⟨orderly.toKeyed.keeping s, ?_, ?_⟩
  all_goals
    intro taskId u held
    rw [get?_keeping] at held
    split at held
  · cases held
    rfl
  · exact orderly.marked held
  · cases held
    exact settled
  · exact orderly.settled held

theorem Orderly.of_get? (orderly : o.Orderly)
    (held : ∀ {taskId s}, o'.get? taskId = some s → o.get? taskId = some s) : o'.Orderly :=
  ⟨⟨fun h => orderly.keyed (held h)⟩, fun h => orderly.marked (held h),
    fun h => orderly.settled (held h)⟩

theorem Orderly.dropping (orderly : o.Orderly) (dropped : String) : (o.dropping dropped).Orderly := by
  refine orderly.of_get? fun held => ?_
  rw [get?_dropping] at held
  split at held
  · cases held
  · exact held

theorem mem_list_iff (orderly : o.Orderly) : s ∈ o.list ↔ o.get? s.taskId = some s := by
  rw [list, NameMap.mem_values_iff]
  constructor
  · rintro ⟨taskId, held⟩
    rwa [orderly.keyed held]
  · exact fun held => ⟨_, held⟩

/-- The overrides are the ones that their list makes up, also after they were read back. -/
theorem ofSchedules_list_reread (orderly : o.Orderly) :
    ofSchedules o.path (o.list.map Schedule.reread) = o.reread := by
  have same (taskId : String) :
      (ofSchedules o.path (o.list.map Schedule.reread)).get? taskId = o.reread.get? taskId := by
    rw [get?_ofSchedules, get?_reread]
    cases found : Schedule.lastOf (o.list.map Schedule.reread) taskId with
    | some u =>
      obtain ⟨mem, rfl⟩ := Schedule.mem_of_lastOf found
      obtain ⟨s, listed, rfl⟩ := List.mem_map.1 mem
      have held := (mem_list_iff orderly).1 listed
      have marked : s.overridden = true := orderly.marked held
      change some _ = (o.get? s.taskId).map Schedule.reread
      rw [held, Option.map_some]
      simp only [Schedule.reread, ← marked]
    | none =>
      cases held : o.get? taskId with
      | none => rfl
      | some s =>
        obtain rfl := orderly.keyed held
        have mem : s.reread ∈ o.list.map Schedule.reread :=
          List.mem_map_of_mem ((mem_list_iff orderly).2 held)
        obtain ⟨u, last⟩ := Schedule.exists_lastOf mem
        cases found.symm.trans last
  exact congrArg (Overrides.mk o.path) (NameMap.ext_get? same)

/-- Writing makes the directories on the way and then the file, and tells why that failed. -/
theorem persist_run (o : Overrides) (t : Tree) :
    (o.persist : StateM Tree (Except Error Unit)) t =
      match Tree.makeParents o.path t with
      | (.error cause, made) => (.error (.ofWriting o.path cause), made)
      | (.ok (), made) =>
        match made.write o.path (Schedule.listText o.list) with
        | .ok t' => (.ok (), t')
        | .error cause => (.error (.ofWriting o.path cause), made) := by
  simp only [persist, bind, StateT.bind, Files.makeParents, Files.write]
  rcases Tree.makeParents o.path t with ⟨_ | _, made⟩
  · rfl
  · dsimp only [StateT.bind]
    cases made.write o.path (Schedule.listText o.list) <;> rfl

/-- Overrides that were written are listed in their file as they are read back. -/
theorem listed_of_persist (orderly : o.Orderly)
    (written : (o.persist : StateM Tree (Except Error Unit)) t = (.ok (), t')) :
    t'.listed? o.path = some (o.list.map Schedule.reread) := by
  have settled : ∀ s ∈ o.list, s.Settled := fun s mem =>
    orderly.settled ((mem_list_iff orderly).1 mem)
  rw [persist_run] at written
  split at written
  · cases written
  · split at written
    · rename_i stored
      cases written
      rw [Tree.listed?, if_pos (Tree.present_of_write stored), Tree.read_of_write stored]
      exact Schedule.parseList_listText settled
    · cases written

/-- Writing fails with an error that tells so, and with no other. -/
theorem notSaved_of_persist {e : Error}
    (failed : (o.persist : StateM Tree (Except Error Unit)) t = (.error e, t')) :
    ∃ why, e = .notSaved why := by
  rw [persist_run] at failed
  split at failed
  · cases failed
    exact ⟨_, rfl⟩
  · split at failed
    · cases failed
    · cases failed
      exact ⟨_, rfl⟩

section
variable {σ : Type} [Files (StateM σ)]

/-- Saving keeps the schedule and writes the overrides, whatever keeps the files. -/
theorem save_run (s : Schedule) (o : Overrides) (t : σ) :
    (save s o : StateM σ (Except Error Unit × Overrides)) t =
      ((((o.keeping s).persist : StateM σ (Except Error Unit)) t).map (·, o.keeping s) id) := by
  simp only [save, keeping, bind, StateT.bind]
  generalize (persist _ : StateM σ (Except Error Unit)) t = r
  rfl

/-- Removing drops an override that there is, and writes those that are left. -/
theorem remove_run (taskId : String) (o : Overrides) (t : σ) :
    (remove taskId o : StateM σ (Except Error Bool × Overrides)) t =
      if o.schedules.contains taskId then
        (((o.dropping taskId).persist : StateM σ (Except Error Unit)) t).map
          (·.map fun _ => true, o.dropping taskId) id
      else ((.ok false, o), t) := by
  simp only [remove, dropping, bind]
  by_cases held : o.schedules.contains taskId = true
  · rw [if_pos held, if_pos held]
    simp only [StateT.bind]
    generalize (persist _ : StateM σ (Except Error Unit)) t = r
    rfl
  · rw [if_neg held, if_neg held]
    rfl

end

/-- What saving does when it succeeds. -/
theorem save_cases {s : Schedule}
    (ran : (save s o : StateM Tree (Except Error Unit × Overrides)) t = ((.ok (), o'), t')) :
    o' = o.keeping s ∧ (o'.persist : StateM Tree (Except Error Unit)) t = (.ok (), t') := by
  rw [save_run] at ran
  rcases run : ((o.keeping s).persist : StateM Tree (Except Error Unit)) t with ⟨written, made⟩
  rw [run] at ran
  cases ran
  exact ⟨rfl, run⟩

/-- What removing does when it succeeds: it writes only if there was an override. -/
theorem remove_cases {taskId : String} {removed : Bool}
    (ran : (remove taskId o : StateM Tree (Except Error Bool × Overrides)) t =
      ((.ok removed, o'), t')) :
    removed = (o.get? taskId).isSome ∧
      (removed = true ∧ o' = o.dropping taskId ∧
        (o'.persist : StateM Tree (Except Error Unit)) t = (.ok (), t') ∨
      removed = false ∧ o' = o ∧ t' = t) := by
  rw [remove_run] at ran
  split at ran
  · rename_i held
    rcases run : ((o.dropping taskId).persist : StateM Tree (Except Error Unit)) t with ⟨written, made⟩
    rw [run] at ran
    cases written with
    | error e => cases ran
    | ok _ =>
      cases ran
      exact ⟨held.symm, .inl ⟨rfl, rfl, run⟩⟩
  · rename_i missing
    cases ran
    exact ⟨(eq_false_of_ne_true missing).symm, .inr ⟨rfl, rfl, rfl⟩⟩

end Overrides

end CronCalendar
