import MissionTracking.Transition.Report
import MissionTracking.Event.Vocabulary

/-!
The status machine of one run. Every reported status overwrites the stored one. A task reported in
progress while the mission is not ongoing means that the controller has reconnected: the mission
becomes ongoing, and every task ordered after the reporting one starts over with all of its
inspections.
-/
namespace MissionTracking

inductive StatusReport where
  | mission (status : MissionStatus)
  | task (externalTaskId : String) (status : TaskStatus)
  | step (externalTaskId externalStepId : String) (status : InspectionStatus)
deriving DecidableEq, Repr

inductive Miss where
  | task
  | step
deriving DecidableEq, Repr

namespace StatusReport

def ofEvent : StatusEvent → Except TrackingError StatusReport
  | .mission _ s => (Vocabulary.missionStatus s).map .mission
  | .task _ t s => (Vocabulary.taskStatus s).map (.task t)
  | .step _ t i s => (Vocabulary.stepStatus s).map (.step t i)

end StatusReport

/-- A task in progress under a mission that is not ongoing. -/
def isRecovery (mission : MissionStatus) (reported : TaskStatus) : Bool :=
  reported == .inProgress && !mission.isActive

namespace Inspection

def resetChanges (taskId : String) (i : Inspection) : List StatusChange :=
  StatusChange.between (.inspection taskId i.id) i.status.text InspectionStatus.notStarted.text
    .recoveryReset

end Inspection

namespace MissionTask

def resetChanges (t : MissionTask) : List StatusChange :=
  StatusChange.between (.task t.id t.taskOrder) t.status.text TaskStatus.notStarted.text
    .recoveryReset ++
    t.inspections.flatMap (Inspection.resetChanges t.id)

end MissionTask

namespace MissionRun

def resetAfter (order : UInt32) (tasks : List MissionTask) : List MissionTask :=
  tasks.map fun t => if order < t.taskOrder then t.reset else t

def resetChangesAfter (order : UInt32) (tasks : List MissionTask) : List StatusChange :=
  (tasks.filter fun t => decide (order < t.taskOrder)).flatMap MissionTask.resetChanges

def applyMissionStatus (r : MissionRun) (status : MissionStatus) : MissionRun × TransitionReport :=
  ({ r with status },
    ⟨r.id, StatusChange.between .mission r.status.text status.text .reported, false⟩)

def applyTaskStatus (r : MissionRun) (i : Fin r.tasks.length) (status : TaskStatus) :
    MissionRun × TransitionReport :=
  let task := r.tasks[i]
  let written := r.tasks.set i { task with status }
  let change :=
    StatusChange.between (.task task.id task.taskOrder) task.status.text status.text .reported
  if isRecovery r.status status then
    ({ r with status := .ongoing, tasks := resetAfter task.taskOrder written },
      ⟨r.id, change ++
        StatusChange.between .mission r.status.text MissionStatus.ongoing.text .recoveryReset ++
        resetChangesAfter task.taskOrder written, true⟩)
  else ({ r with tasks := written }, ⟨r.id, change, false⟩)

def applyStepStatus (r : MissionRun) (i : Fin r.tasks.length)
    (k : Fin r.tasks[i].inspections.length)
    (status : InspectionStatus) : MissionRun × TransitionReport :=
  let task := r.tasks[i]
  let inspection := task.inspections[k]
  let inspections := task.inspections.set k { inspection with status }
  ({ r with tasks := r.tasks.set i { task with inspections } },
    ⟨r.id, StatusChange.between (.inspection task.id inspection.id) inspection.status.text
      status.text .reported, false⟩)

/-- Resolves the ids of a report, the first task and the first step that carry them, and applies
it. -/
def receive (r : MissionRun) : StatusReport → Except Miss (MissionRun × TransitionReport)
  | .mission status => .ok (r.applyMissionStatus status)
  | .task t status =>
    match r.findTask? t with
    | some i => .ok (r.applyTaskStatus i status)
    | none => .error .task
  | .step t s status =>
    match r.findTask? t with
    | some i =>
      match r.tasks[i].findStep? s with
      | some k => .ok (r.applyStepStatus i k status)
      | none => .error .step
    | none => .error .task

end MissionRun
end MissionTracking
