import MissionTracking.Transition.Apply

/-!
The status slots of a run, by position: one for the mission, one for each task and one for each
inspection. A report writes some of the slots and nothing else of the run; which ones, and what, is
read off the report, the run as it was stored and the mission status of the moment.
-/
namespace MissionTracking

/-- A status for every slot. Positions that a run does not have count for nothing. -/
structure Statuses where
  mission : MissionStatus
  task : Nat → TaskStatus
  step : Nat → Nat → InspectionStatus

namespace MissionTask

def withStatuses (t : MissionTask) (status : TaskStatus) (steps : Nat → InspectionStatus) :
    MissionTask :=
  { t with status, inspections := t.inspections.mapIdx fun k i => { i with status := steps k } }

def stepPosition (t : MissionTask) (externalId : String) : Option Nat :=
  t.inspections.findIdx? fun i => i.externalStepId == some externalId

end MissionTask

namespace MissionRun

def withStatuses (r : MissionRun) (s : Statuses) : MissionRun :=
  { r with status := s.mission,
           tasks := r.tasks.mapIdx fun j t => t.withStatuses (s.task j) (s.step j) }

def statuses (r : MissionRun) : Statuses where
  mission := r.status
  task j := r.tasks[j]?.elim .notStarted MissionTask.status
  step j k := (r.tasks[j]?.bind fun t => t.inspections[k]?).elim .notStarted Inspection.status

def taskPosition (r : MissionRun) (externalId : String) : Option Nat :=
  r.tasks.findIdx? fun t => t.externalTaskId == some externalId

def stepPosition (r : MissionRun) (taskId stepId : String) : Option (Nat × Nat) := do
  let j ← r.taskPosition taskId
  let t ← r.tasks[j]?
  let k ← t.stepPosition stepId
  some (j, k)

def orderAt (r : MissionRun) (j : Nat) : Option UInt32 := r.tasks[j]?.map MissionTask.taskOrder

/-- The run after a report. A report whose ids lead nowhere does nothing. -/
def after (r : MissionRun) (report : StatusReport) : MissionRun :=
  match r.receive report with
  | .ok (changed, _) => changed
  | .error _ => r

def missionWrite (r : MissionRun) : StatusReport → Option MissionStatus
  | .mission status => some status
  | .task t status =>
    if status = .inProgress then (r.taskPosition t).map fun _ => .ongoing else none
  | .step .. => none

/-- A report makes the task at a position start over: a task of a smaller order is in progress, and
the mission is not ongoing. -/
def restarts (r : MissionRun) (j : Nat) (mission : MissionStatus) : StatusReport → Bool
  | .task t status =>
    status == .inProgress && mission != .ongoing &&
      ((r.taskPosition t).bind r.orderAt).any fun reporting =>
        (r.orderAt j).any fun order => decide (reporting < order)
  | _ => false

/-- What a report writes to the slot of a task: its status, when it resolves to the task, or that
the task starts over. -/
def taskWrite (r : MissionRun) (j : Nat) (mission : MissionStatus) :
    StatusReport → Option TaskStatus
  | .task t status =>
    if r.taskPosition t = some j then some status
    else if r.restarts j mission (.task t status) then some .notStarted else none
  | _ => none

/-- What a report writes to the slot of an inspection. A task that starts over takes its inspections
with it. -/
def stepWrite (r : MissionRun) (j k : Nat) (mission : MissionStatus) :
    StatusReport → Option InspectionStatus
  | .step t s status => if r.stepPosition t s = some (j, k) then some status else none
  | .task t status => if r.restarts j mission (.task t status) then some .notStarted else none
  | .mission _ => none

end MissionRun

def Statuses.after (s : Statuses) (r : MissionRun) (report : StatusReport) : Statuses where
  mission := (r.missionWrite report).getD s.mission
  task j := (r.taskWrite j s.mission report).getD (s.task j)
  step j k := (r.stepWrite j k s.mission report).getD (s.step j k)

theorem findIdx?_mapIdx {f : Nat → α → β} {p : β → Bool} {q : α → Bool}
    (unseen : ∀ j a, p (f j a) = q a) (as : List α) : (as.mapIdx f).findIdx? p = as.findIdx? q := by
  induction as generalizing f with
  | nil => rfl
  | cons a as ih =>
    have rest := ih (f := fun j => f (j + 1)) fun j a => unseen (j + 1) a
    simp only [List.mapIdx_cons, List.findIdx?_cons, unseen, rest]

theorem mapIdx_eq_self {f : Nat → α → α} {as : List α} (kept : ∀ j a, as[j]? = some a → f j a = a) :
    as.mapIdx f = as := by
  apply List.mapIdx_eq_iff.mpr
  intro j
  cases hj : as[j]? with
  | none => rfl
  | some a => exact congrArg some (kept j a hj).symm

namespace MissionTask

theorem stepPosition_withStatuses (t : MissionTask) (status : TaskStatus)
    (steps : Nat → InspectionStatus)
    (e : String) : (t.withStatuses status steps).stepPosition e = t.stepPosition e := by
  unfold stepPosition withStatuses
  apply findIdx?_mapIdx
  intro k i
  rfl

theorem withStatuses_self {t : MissionTask} {steps : Nat → InspectionStatus}
    (own : ∀ (k : Nat) (i : Inspection), t.inspections[k]? = some i → steps k = i.status) :
    t.withStatuses t.status steps = t := by
  have inspections : (t.withStatuses t.status steps).inspections = t.inspections := by
    apply mapIdx_eq_self
    intro k i hk
    rw [own k i hk]
  exact congrArg (fun is => { t with inspections := is }) inspections

theorem withStatuses_congr {t : MissionTask} {status : TaskStatus}
    {steps steps' : Nat → InspectionStatus}
    (same : ∀ (k : Nat) (i : Inspection), t.inspections[k]? = some i → steps k = steps' k) :
    t.withStatuses status steps = t.withStatuses status steps' := by
  have inspections :
      (t.withStatuses status steps).inspections = (t.withStatuses status steps').inspections := by
    apply List.mapIdx_eq_mapIdx_iff.mpr
    intro k hk
    rw [same k _ (List.getElem?_eq_getElem hk)]
  exact congrArg (fun is => { t with status, inspections := is }) inspections

theorem withStatuses_withStatuses (t : MissionTask) (status status' : TaskStatus)
    (steps steps' : Nat → InspectionStatus) :
    (t.withStatuses status steps).withStatuses status' steps' = t.withStatuses status' steps' := by
  simp only [withStatuses, List.mapIdx_mapIdx]
  rfl

end MissionTask

namespace MissionRun
variable (r : MissionRun) (s : Statuses)

@[simp] theorem taskPosition_withStatuses (e : String) :
    (r.withStatuses s).taskPosition e = r.taskPosition e := by
  unfold taskPosition withStatuses
  apply findIdx?_mapIdx
  intro j t
  rfl

theorem getElem?_withStatuses (j : Nat) :
    (r.withStatuses s).tasks[j]? =
    r.tasks[j]?.map fun t => t.withStatuses (s.task j) (s.step j) := by
  simp only [withStatuses, List.getElem?_mapIdx]

@[simp] theorem orderAt_withStatuses (j : Nat) : (r.withStatuses s).orderAt j = r.orderAt j := by
  rw [orderAt, getElem?_withStatuses, Option.map_map]
  rfl

@[simp] theorem stepPosition_withStatuses (t e : String) :
    (r.withStatuses s).stepPosition t e = r.stepPosition t e := by
  simp only [stepPosition, taskPosition_withStatuses, getElem?_withStatuses, Option.bind_eq_bind]
  cases r.taskPosition t with
  | none => rfl
  | some j =>
    cases hj : r.tasks[j]? with
    | none => simp [hj]
    | some task => simp [hj, MissionTask.stepPosition_withStatuses]

@[simp] theorem statuses_mission : r.statuses.mission = r.status := rfl

theorem statuses_task {j : Nat} {t : MissionTask} (hj : r.tasks[j]? = some t) :
    r.statuses.task j = t.status := by
  simp only [statuses, hj, Option.elim_some]

theorem statuses_step {j k : Nat} {t : MissionTask} {i : Inspection} (hj : r.tasks[j]? = some t)
    (hk : t.inspections[k]? = some i) : r.statuses.step j k = i.status := by
  simp only [statuses, hj, Option.bind_some, hk, Option.elim_some]

theorem withStatuses_own {j : Nat} {t : MissionTask} (hj : r.tasks[j]? = some t) :
    t.withStatuses (r.statuses.task j) (r.statuses.step j) = t := by
  rw [r.statuses_task hj]
  exact MissionTask.withStatuses_self fun k i hk => r.statuses_step hj hk

theorem withStatuses_statuses : r.withStatuses r.statuses = r := by
  have tasks : (r.withStatuses r.statuses).tasks = r.tasks := by
    apply mapIdx_eq_self
    intro j t hj
    exact r.withStatuses_own hj
  exact congrArg (fun ts => { r with tasks := ts }) tasks

theorem eq_withStatuses {r changed : MissionRun} {s : Statuses}
    (frame : changed = { r with status := changed.status, tasks := changed.tasks })
    (mission : changed.status = s.mission) (length : changed.tasks.length = r.tasks.length)
    (slots : ∀ (j : Nat) (t : MissionTask), r.tasks[j]? = some t →
      changed.tasks[j]? = some (t.withStatuses (s.task j) (s.step j))) :
    changed = r.withStatuses s := by
  have tasks : changed.tasks = (r.withStatuses s).tasks := by
    apply List.ext_getElem?
    intro j
    rw [getElem?_withStatuses]
    cases hj : r.tasks[j]? with
    | none =>
      have outside := List.getElem?_eq_none_iff.mp hj
      exact List.getElem?_eq_none (by omega)
    | some t => exact slots j t hj
  rw [frame, mission, tasks]
  rfl

theorem withStatuses_withStatuses (s s' : Statuses) :
    (r.withStatuses s).withStatuses s' = r.withStatuses s' := by
  have length : ((r.withStatuses s).withStatuses s').tasks.length = r.tasks.length := by
    simp [withStatuses]
  refine eq_withStatuses rfl rfl length ?_
  intro j t hj
  simp only [getElem?_withStatuses, hj, Option.map_some, MissionTask.withStatuses_withStatuses]

theorem withStatuses_congr {r : MissionRun} {s s' : Statuses} (mission : s.mission = s'.mission)
    (task : ∀ (j : Nat) (t : MissionTask), r.tasks[j]? = some t → s.task j = s'.task j)
    (step : ∀ (j k : Nat) (t : MissionTask) (i : Inspection),
      r.tasks[j]? = some t → t.inspections[k]? = some i →
      s.step j k = s'.step j k) : r.withStatuses s = r.withStatuses s' := by
  refine eq_withStatuses rfl mission (by simp [withStatuses]) ?_
  intro j t hj
  rw [getElem?_withStatuses, hj, Option.map_some, task j t hj]
  exact congrArg some (MissionTask.withStatuses_congr fun k i hk => step j k t i hj hk)

@[simp] theorem missionWrite_withStatuses (report : StatusReport) :
    (r.withStatuses s).missionWrite report = r.missionWrite report := by
  cases report <;> simp only [missionWrite, taskPosition_withStatuses]

@[simp] theorem restarts_withStatuses (j : Nat) (mission : MissionStatus) (report : StatusReport) :
    (r.withStatuses s).restarts j mission report = r.restarts j mission report := by
  have orders : (r.withStatuses s).orderAt = r.orderAt := funext (r.orderAt_withStatuses s)
  cases report <;> simp only [restarts, taskPosition_withStatuses, orders]

@[simp] theorem taskWrite_withStatuses (j : Nat) (mission : MissionStatus) (report : StatusReport) :
    (r.withStatuses s).taskWrite j mission report = r.taskWrite j mission report := by
  cases report <;> simp only [taskWrite, taskPosition_withStatuses, restarts_withStatuses]

@[simp] theorem stepWrite_withStatuses (j k : Nat) (mission : MissionStatus)
    (report : StatusReport) :
    (r.withStatuses s).stepWrite j k mission report = r.stepWrite j k mission report := by
  cases report <;> simp only [stepWrite, stepPosition_withStatuses, restarts_withStatuses]

end MissionRun
end MissionTracking
