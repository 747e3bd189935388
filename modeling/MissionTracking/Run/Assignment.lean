import MissionTracking.Run.Validity

/-!
External ids that the controller hands out after a run is stored. Tasks are addressed by their order
and inspections by their own id, in both cases the first that fits. Every id is written once: the
value that a slot already holds is accepted, any other is refused. An assignment is a list of single
writes, carried out in order until one is refused.
-/
namespace MissionTracking
open Json

structure StepId where
  inspectionId : String
  externalStepId : String
deriving DecidableEq, Repr

structure TaskIds where
  taskOrder : UInt32
  externalTaskId : Option String
  steps : List StepId
deriving DecidableEq, Repr

structure Assignment where
  externalMissionId : Option String
  tasks : List TaskIds
deriving DecidableEq, Repr

def assignOnce (entity : Entity) (slot : Option String) (requested : String) :
    Except ValidationError (Option String) :=
  match slot with
  | none => .ok (some requested)
  | some existing =>
    if existing = requested then .ok slot
    else .error (.externalIdAssigned entity existing requested)

def updateFirst (fits : α → Bool) (missing : ε) (update : α → Except ε α) :
    List α → Except ε (List α)
  | [] => .error missing
  | a :: as =>
    if fits a then (update a).map (· :: as)
    else (updateFirst fits missing update as).map (a :: ·)

inductive IdWrite where
  | mission (id : String)
  /-- The task must exist even when no id is given for it. -/
  | task (order : UInt32) (id : Option String)
  | step (order : UInt32) (step : StepId)
deriving DecidableEq, Repr

namespace Inspection

def assign (i : Inspection) (id : String) : Except ValidationError Inspection :=
  (assignOnce .inspection i.externalStepId id).map fun slot => { i with externalStepId := slot }

end Inspection

namespace MissionTask

def assign (t : MissionTask) : Option String → Except ValidationError MissionTask
  | none => .ok t
  | some id =>
    (assignOnce .missionTask t.externalTaskId id).map fun slot => { t with externalTaskId := slot }

def assignStep (t : MissionTask) (step : StepId) : Except ValidationError MissionTask :=
  (updateFirst (fun i => i.id == step.inspectionId)
    (.missionRun (.noInspection step.inspectionId t.taskOrder)) (·.assign step.externalStepId)
    t.inspections).map fun inspections => { t with inspections }

end MissionTask

namespace MissionRun

def updateTask (r : MissionRun) (order : UInt32)
    (update : MissionTask → Except ValidationError MissionTask) :
    Except ValidationError MissionRun :=
  (updateFirst (fun t => t.taskOrder == order) (.missionRun (.noTask order)) update r.tasks).map
    fun tasks => { r with tasks }

def write (r : MissionRun) : IdWrite → Except ValidationError MissionRun
  | .mission id =>
    (assignOnce .missionRun r.externalMissionId id).map fun slot =>
      { r with externalMissionId := slot }
  | .task order id => r.updateTask order (·.assign id)
  | .step order step => r.updateTask order (·.assignStep step)

/-- Carries out writes until one is refused. The run holds whatever was written before that. -/
def writeAll (r : MissionRun) : List IdWrite → MissionRun × Except ValidationError Unit
  | [] => (r, .ok ())
  | w :: ws =>
    match r.write w with
    | .ok r => r.writeAll ws
    | .error e => (r, .error e)

end MissionRun

namespace TaskIds

def writes (ids : TaskIds) : List IdWrite :=
  .task ids.taskOrder ids.externalTaskId :: ids.steps.map (.step ids.taskOrder)

def ofJson? (j : Json) : Option TaskIds := do
  let r ← j.record? ["taskOrder", "externalTaskId", "steps"]
  let taskOrder ← r.required "taskOrder" uint32?
  let externalTaskId ← r.optional "externalTaskId" string?
  let steps ← r.withDefault "steps" [] (listOf? fun j => do
    let r ← j.record? ["inspectionId", "externalStepId"]
    let inspectionId ← r.required "inspectionId" string?
    let externalStepId ← r.required "externalStepId" string?
    some { inspectionId, externalStepId })
  some { taskOrder, externalTaskId, steps }

def toJson (ids : TaskIds) : Json :=
  .object [("taskOrder", ofUInt32 ids.taskOrder),
    ("externalTaskId", ofOption .string ids.externalTaskId),
    ("steps", ofList (fun s : StepId => .object [("inspectionId", .string s.inspectionId),
      ("externalStepId", .string s.externalStepId)]) ids.steps)]

end TaskIds

namespace Assignment

def writes (a : Assignment) : List IdWrite :=
  (a.externalMissionId.map IdWrite.mission).toList ++ a.tasks.flatMap TaskIds.writes

/-- All writes, then the check that no external id is repeated. A refused assignment leaves what it
wrote, so it is applied to a copy that is kept only on success. -/
def apply (a : Assignment) (r : MissionRun) : MissionRun × Except ValidationError Unit :=
  match r.writeAll a.writes with
  | (r, .ok ()) => (r, r.checkExternalIds)
  | refused => refused

def applied (a : Assignment) (r : MissionRun) : Except ValidationError MissionRun :=
  match a.apply r with
  | (r, .ok ()) => .ok r
  | (_, .error e) => .error e

def ofJson? (j : Json) : Option Assignment := do
  let r ← j.record? ["externalMissionId", "tasks"]
  let externalMissionId ← r.optional "externalMissionId" string?
  let tasks ← r.withDefault "tasks" [] (listOf? TaskIds.ofJson?)
  some { externalMissionId, tasks }

def toJson (a : Assignment) : Json :=
  .object [("externalMissionId", ofOption .string a.externalMissionId),
    ("tasks", ofList TaskIds.toJson a.tasks)]

end Assignment
end MissionTracking
