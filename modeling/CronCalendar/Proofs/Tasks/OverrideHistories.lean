import CronCalendar.Proofs.Tasks.OverrideFiles
import CronCalendar.Proofs.Text.ByteOrder

/-!
# Overrides over any number of requests

Overrides are opened from a file, and then schedules are saved and removed and the file is opened
again, any number of times. `lastSaved` tells from the requests alone what should be held for a task.
Each granted request keeps the overrides and their file `InStep`: the file lists what is held in
memory, up to the form in which fields are stored. From this it follows for every history that the
overrides hold what was last saved, and that opening the file anew gives the same list
(`follows_of_reached`).
-/

namespace CronCalendar.Overrides
set_option autoImplicit false

/-- What is asked of the overrides. -/
inductive Request where
  | save (s : Schedule)
  | remove (taskId : String)
  /-- The overrides are opened again from their file. -/
  | reopen

/-- A request succeeds, and makes of some overrides and files others. -/
inductive Granted : Request → Overrides → Tree → Overrides → Tree → Prop
  | save {s : Schedule} {o o' : Overrides} {t t' : Tree} (built : s.Built)
      (ran : (save s o : StateM Tree (Except Error Unit × Overrides)) t = ((.ok (), o'), t')) :
      Granted (.save s) o t o' t'
  | remove {taskId : String} {removed : Bool} {o o' : Overrides} {t t' : Tree}
      (ran : (remove taskId o : StateM Tree (Except Error Bool × Overrides)) t =
        ((.ok removed, o'), t')) :
      Granted (.remove taskId) o t o' t'
  | reopen {o o' : Overrides} {t t' : Tree}
      (ran : (openAt o.path : StateM Tree (Except Error Overrides)) t = (.ok o', t')) :
      Granted .reopen o t o' t'

/-- The overrides and files that come about by opening a path and then granting some requests, the
latest of which comes first. -/
inductive Reached (path : String) (start : Tree) : List Request → Overrides → Tree → Prop
  | opened {o : Overrides} {t : Tree}
      (ran : (openAt path : StateM Tree (Except Error Overrides)) start = (.ok o, t)) :
      Reached path start [] o t
  | granted {requests : List Request} {r : Request} {o o' : Overrides} {t t' : Tree}
      (reached : Reached path start requests o t) (granted : Granted r o t o' t') :
      Reached path start (r :: requests) o' t'

/-- What some requests leave for a task: the copy that was last saved since the last removal, marked
as an override. Before the first of them that is the last one of the task in the initial file. -/
def lastSaved (initial : List Schedule) : List Request → String → Option Schedule
  | [], taskId => (Schedule.lastOf initial taskId).map fun s => { s with overridden := true }
  | .save s :: requests, taskId =>
    if taskId = s.taskId then some { s with overridden := true } else lastSaved initial requests taskId
  | .remove removed :: requests, taskId =>
    if taskId = removed then none else lastSaved initial requests taskId
  | .reopen :: requests, taskId => lastSaved initial requests taskId

variable {path : String} {start t t' : Tree} {initial ss : List Schedule} {requests : List Request}
  {r : Request} {o o' : Overrides}

/-- The overrides are orderly, and their file lists them, perhaps in other forms of the same texts. -/
structure InStep (o : Overrides) (t : Tree) : Prop where
  orderly : o.Orderly
  listed : ∃ ss, t.listed? o.path = some ss ∧
    (ofSchedules o.path ss = o ∨ ofSchedules o.path ss = o.reread)

theorem settled_of_listed (listed : t.listed? path = some ss) : ∀ s ∈ ss, s.Settled := by
  unfold Tree.listed? at listed
  split at listed
  · split at listed
    · exact Schedule.settled_of_parseList listed
    · cases listed
  · cases listed
    simp

theorem InStep.of_listed (listed : t.listed? path = some ss) : (ofSchedules path ss).InStep t :=
  ⟨orderly_ofSchedules (settled_of_listed listed), ss, listed, .inl rfl⟩

theorem InStep.of_persist (orderly : o.Orderly)
    (written : (o.persist : StateM Tree (Except Error Unit)) t = (.ok (), t')) : o.InStep t' :=
  ⟨orderly, _, listed_of_persist orderly written, .inr (ofSchedules_list_reread orderly)⟩

/-- A granted request keeps the overrides and their file in step. -/
theorem InStep.granted (inStep : o.InStep t) (granted : Granted r o t o' t') :
    o'.InStep t' ∧ o'.path = o.path := by
  cases granted with
  | save built ran =>
    obtain ⟨rfl, written⟩ := save_cases ran
    exact ⟨.of_persist (inStep.orderly.keeping built.settled) written, rfl⟩
  | remove ran =>
    obtain ⟨-, ⟨-, rfl, written⟩ | ⟨-, rfl, rfl⟩⟩ := remove_cases ran
    · exact ⟨.of_persist (inStep.orderly.dropping _) written, rfl⟩
    · exact ⟨inStep, rfl⟩
  | reopen ran =>
    obtain ⟨rfl, ss, listed, rfl⟩ := openAt_eq_ok_iff.1 ran
    exact ⟨.of_listed listed, rfl⟩

/-- Overrides that are in step are opened from their file as they are or as they are read back. -/
theorem InStep.opens (inStep : o.InStep t) :
    ∃ o', (openAt o.path : StateM Tree (Except Error Overrides)) t = (.ok o', t) ∧
      (o' = o ∨ o' = o.reread) := by
  obtain ⟨ss, listed, same⟩ := inStep.listed
  exact ⟨_, openAt_eq_ok_iff.2 ⟨rfl, ss, listed, rfl⟩, same⟩

theorem alike_refl (s : Option Schedule) : Option.Rel Schedule.Alike s s := by
  cases s with
  | none => exact .none
  | some s => exact .some (.refl s)

theorem alike_symm {s u : Option Schedule} (alike : Option.Rel Schedule.Alike s u) :
    Option.Rel Schedule.Alike u s := by
  cases alike with
  | none => exact .none
  | some alike => exact .some alike.symm

theorem alike_trans {s u v : Option Schedule} (first : Option.Rel Schedule.Alike s u)
    (second : Option.Rel Schedule.Alike u v) : Option.Rel Schedule.Alike s v := by
  cases first with
  | none => exact second
  | some first =>
    cases second with
    | some second => exact .some (first.trans second)

theorem isSome_eq_of_alike {s u : Option Schedule} (alike : Option.Rel Schedule.Alike s u) :
    s.isSome = u.isSome := by
  cases alike <;> rfl

/-- Opened again, the overrides hold for each task what they held, up to the form of the fields. -/
theorem alike_of_opened (same : o' = o ∨ o' = o.reread) (taskId : String) :
    Option.Rel Schedule.Alike (o'.get? taskId) (o.get? taskId) := by
  rcases same with rfl | rfl
  · exact alike_refl _
  · rw [get?_reread]
    cases o.get? taskId with
    | none => exact .none
    | some s => exact .some (Schedule.reread_alike s)

theorem list_alike_of_opened (same : o' = o ∨ o' = o.reread) :
    List.Forall₂ Schedule.Alike o'.list o.list := by
  rcases same with rfl | rfl
  · exact List.forall₂_same.2 fun s _ => .refl s
  · have reread : o.reread.list = o.list.map Schedule.reread := by
      simp only [list, NameMap.values, Overrides.reread, NameMap.map, List.map_map]
      rfl
    rw [reread, List.forall₂_map_left_iff]
    exact List.forall₂_same.2 fun s _ => Schedule.reread_alike s

/-- Whatever was granted, the overrides and their file are in step. -/
theorem Reached.inStep (reached : Reached path start requests o t) : o.InStep t ∧ o.path = path := by
  induction reached with
  | opened ran =>
    obtain ⟨rfl, ss, listed, rfl⟩ := openAt_eq_ok_iff.1 ran
    exact ⟨.of_listed listed, rfl⟩
  | granted _ granted ih =>
    obtain ⟨inStep, same⟩ := ih.1.granted granted
    exact ⟨inStep, same.trans ih.2⟩

theorem get?_of_removed {taskId : String} {removed : Bool}
    (ran : (remove taskId o : StateM Tree (Except Error Bool × Overrides)) t =
      ((.ok removed, o'), t')) (other : String) :
    o'.get? other = if other = taskId then none else o.get? other := by
  obtain ⟨held, ⟨-, rfl, -⟩ | ⟨rfl, rfl, -⟩⟩ := remove_cases ran
  · exact get?_dropping taskId
  · split
    · rename_i eq
      exact Option.isSome_eq_false_iff.1 (eq ▸ held.symm) |> Option.isNone_iff_eq_none.1
    · rfl

/-- What is held is what was last saved, up to the form of the fields. -/
theorem Reached.holds (listed : start.listed? path = some initial)
    (reached : Reached path start requests o t) (taskId : String) :
    Option.Rel Schedule.Alike (o.get? taskId) (lastSaved initial requests taskId) := by
  induction reached with
  | opened ran =>
    obtain ⟨-, ss, read, rfl⟩ := openAt_eq_ok_iff.1 ran
    cases listed.symm.trans read
    rw [get?_ofSchedules]
    exact alike_refl _
  | granted reached granted ih =>
    cases granted with
    | save _ ran =>
      obtain ⟨rfl, -⟩ := save_cases ran
      rw [get?_keeping, lastSaved]
      split
      · exact alike_refl _
      · exact ih
    | remove ran =>
      rw [get?_of_removed ran, lastSaved]
      split
      · exact .none
      · exact ih
    | reopen ran =>
      obtain ⟨u, opened, forms⟩ := reached.inStep.1.opens
      cases ran.symm.trans opened
      exact alike_trans (alike_of_opened forms taskId) ih

/-- As long as the overrides are not opened again, the very copy is held that was last saved. -/
theorem Reached.holds_copy (listed : start.listed? path = some initial)
    (reached : Reached path start requests o t) (once : .reopen ∉ requests) (taskId : String) :
    o.get? taskId = lastSaved initial requests taskId := by
  induction reached with
  | opened ran =>
    obtain ⟨-, ss, read, rfl⟩ := openAt_eq_ok_iff.1 ran
    cases listed.symm.trans read
    exact get?_ofSchedules
  | granted _ granted ih =>
    have before := ih fun mem => once (List.mem_cons_of_mem _ mem)
    cases granted with
    | save _ ran =>
      obtain ⟨rfl, -⟩ := save_cases ran
      rw [get?_keeping, lastSaved, before]
    | remove ran => rw [get?_of_removed ran, lastSaved, before]
    | reopen => exact absurd List.mem_cons_self once

/-- The overrides are what an initial file and some requests make of them, and so is their file. -/
structure Follows (initial : List Schedule) (requests : List Request) (o : Overrides) (t : Tree) :
    Prop where
  /-- What is held for a task is what was last saved. -/
  holds : ∀ taskId, Option.Rel Schedule.Alike (o.get? taskId) (lastSaved initial requests taskId)
  /-- It is the very copy if the overrides were not opened again. -/
  copies : .reopen ∉ requests → ∀ taskId, o.get? taskId = lastSaved initial requests taskId
  /-- Each override is kept under the id of its own task and marked as one. -/
  keyed : ∀ taskId s, o.get? taskId = some s → s.taskId = taskId ∧ s.overridden = true
  /-- The list has the overrides that are held and no others. -/
  lists : ∀ s, s ∈ o.list ↔ o.get? s.taskId = some s
  /-- It is in strictly ascending order of the bytes of the ids. -/
  ascending : o.list.Pairwise fun s u => Text.bytes s.taskId < Text.bytes u.taskId
  /-- Removing answers whether something was held, and changes nothing if nothing was. -/
  removes : ∀ taskId removed o' t',
    (remove taskId o : StateM Tree (Except Error Bool × Overrides)) t = ((.ok removed, o'), t') →
      removed = (lastSaved initial requests taskId).isSome ∧ (removed = false → o' = o ∧ t' = t)
  /-- The override of a task goes before its default. -/
  effective : ∀ (registry : Registry) taskId,
    o.effective? registry taskId =
      if (lastSaved initial requests taskId).isSome then o.get? taskId else registry.default? taskId
  /-- Opening the file anew gives the same list. -/
  opens : ∃ o', (openAt o.path : StateM Tree (Except Error Overrides)) t = (.ok o', t) ∧
    List.Forall₂ Schedule.Alike o'.list o.list

/-- However overrides come about from an initial file, they and their file are what the requests make
of them. -/
theorem follows_of_reached (listed : start.listed? path = some initial)
    (reached : Reached path start requests o t) : Follows initial requests o t := by
  have orderly := reached.inStep.1.orderly
  have held (taskId : String) := isSome_eq_of_alike (reached.holds listed taskId)
  refine
    { holds := reached.holds listed
      copies := fun once => reached.holds_copy listed once
      keyed := fun taskId s h => ⟨orderly.keyed h, orderly.marked h⟩
      lists := fun s => mem_list_iff orderly
      ascending := ?_
      removes := fun taskId removed o' t' ran => ?_
      effective := fun registry taskId => ?_
      opens := ?_ }
  · rw [list, NameMap.values, List.pairwise_map]
    refine o.schedules.ascending.imp_of_mem fun {p q} first second lt => ?_
    rw [orderly.keyed (NameMap.get?_eq_some_iff.2 first),
      orderly.keyed (NameMap.get?_eq_some_iff.2 second)]
    exact Text.bytes_lt_iff.2 lt
  · obtain ⟨answer, change⟩ := remove_cases ran
    refine ⟨answer.trans (held taskId), fun none => ?_⟩
    obtain ⟨some, -⟩ | ⟨-, same⟩ := change
    · cases none.symm.trans some
    · exact same
  · rw [effective?, ← held]
    cases o.get? taskId <;> rfl
  · obtain ⟨o', opened, forms⟩ := reached.inStep.1.opens
    exact ⟨o', opened, list_alike_of_opened forms⟩

/-- A file that lists the task `b` twice, and `a` behind it. -/
def handWritten : Tree :=
  ⟨[(["o.json"], .file ("[\x7b\"task_id\": \"b\", \"hour\": \"1\"\x7d, " ++
    "\x7b\"task_id\": \"b\", \"hour\": \"2\"\x7d, [\"a\"]]"))]⟩

/-- The schedules that it lists. -/
def handListed : List Schedule := (handWritten.listed? "o.json").getD []

/-- A schedule with a set of hours, which is written as a text. -/
def evenings : Schedule := ({ taskId := "c" } : Schedule).setValues .hour (.ofList [22, 23])

/-- What saving it answers and leaves. -/
def eveningsSaved : (Except Error Unit × Overrides) × Tree :=
  (save evenings (ofSchedules "o.json" handListed) : StateM Tree _) handWritten

/-- What removing `b` then answers and leaves. -/
def removedB : (Except Error Bool × Overrides) × Tree :=
  (remove "b" eveningsSaved.1.2 : StateM Tree _) eveningsSaved.2

/-- A set is saved, the task that is listed twice is removed, and the file is opened again. -/
theorem handWritten_followed :
    ∃ o t, handWritten.listed? "o.json" = some handListed ∧
      Reached "o.json" handWritten [.reopen, .remove "b", .save evenings] o t ∧
      Follows handListed [.reopen, .remove "b", .save evenings] o t := by
  have listed : handWritten.listed? "o.json" = some handListed := by
    have lists : (handWritten.listed? "o.json").isSome = true := by decide +kernel
    obtain ⟨ss, listed⟩ := Option.isSome_iff_exists.1 lists
    rw [handListed, listed]
    rfl
  have opened : Reached "o.json" handWritten [] (ofSchedules "o.json" handListed) handWritten :=
    .opened (openAt_eq_ok_iff.2 ⟨rfl, _, listed, rfl⟩)
  obtain ⟨_, saving⟩ := run_eq_of_isOk (by decide +kernel : eveningsSaved.1.1.isOk = true)
  have saved := opened.granted (.save ((Schedule.Built.new "c").setValues .hour _) saving)
  obtain ⟨_, removing⟩ := run_eq_of_isOk (by decide +kernel : removedB.1.1.isOk = true)
  have removed := saved.granted (.remove removing)
  obtain ⟨o, opens, -⟩ := removed.inStep.1.opens
  have reopened := removed.granted (.reopen opens)
  exact ⟨_, _, listed, reopened, follows_of_reached listed reopened⟩

end CronCalendar.Overrides
