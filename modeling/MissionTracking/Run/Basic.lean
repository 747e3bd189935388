import MissionTracking.Status
import MissionTracking.Time.Reader

/-!
Mission runs: one execution of an inspection mission by one robot, with its tasks in order of
execution and the inspections of each task. The controller names the run, its tasks and its
inspections by external ids, the only keys that its reports carry; it calls an inspection a step.
-/
namespace MissionTracking

inductive InspectionType where
  | image
  | thermalImage
  | video
  | thermalVideo
  | audio
deriving DecidableEq, Repr

structure Inspection where
  id : String
  externalStepId : Option String
  inspectionType : InspectionType
  status : InspectionStatus
deriving DecidableEq, Repr

structure MissionTask where
  id : String
  externalTaskId : Option String
  taskOrder : UInt32
  tagId : Option String
  description : Option String
  status : TaskStatus
  inspections : List Inspection
deriving DecidableEq, Repr

structure Robot where
  id : String
  name : String
  model : RobotModel
deriving DecidableEq, Repr

structure Area where
  id : String
  name : String
deriving DecidableEq, Repr

structure MissionRun where
  id : String
  /-- The mission definition that this run was scheduled from. -/
  missionId : Option String
  name : String
  status : MissionStatus
  externalMissionId : Option String
  description : Option String
  statusReason : Option String
  comment : Option String
  assetCode : String
  area : Option Area
  robot : Robot
  desiredStartTime : Instant
  startTime : Option Instant
  endTime : Option Instant
  /-- Seconds. -/
  estimatedDuration : Option UInt64
  tasks : List MissionTask
deriving DecidableEq

namespace InspectionType

def all : List InspectionType := [.image, .thermalImage, .video, .thermalVideo, .audio]

def name : InspectionType → String
  | .image => "Image"
  | .thermalImage => "ThermalImage"
  | .video => "Video"
  | .thermalVideo => "ThermalVideo"
  | .audio => "Audio"

end InspectionType

namespace Inspection

def fresh (id : String) (inspectionType : InspectionType) : Inspection :=
  ⟨id, none, inspectionType, .notStarted⟩

def withExternalId (i : Inspection) (externalId : String) : Inspection :=
  { i with externalStepId := some externalId }

def reset (i : Inspection) : Inspection := { i with status := .notStarted }

end Inspection

namespace MissionTask

def fresh (id : String) (order : UInt32) : MissionTask :=
  ⟨id, none, order, none, none, .notStarted, []⟩

def withTag (t : MissionTask) (tag : String) : MissionTask := { t with tagId := some tag }

def withExternalId (t : MissionTask) (externalId : String) : MissionTask :=
  { t with externalTaskId := some externalId }

def withInspection (t : MissionTask) (i : Inspection) : MissionTask :=
  { t with inspections := t.inspections ++ [i] }

def findStep? (t : MissionTask) (externalId : String) : Option (Fin t.inspections.length) :=
  t.inspections.findFinIdx? fun i => i.externalStepId == some externalId

def inspection? (t : MissionTask) (id : String) : Option Inspection :=
  t.inspections.find? fun i => i.id == id

def stepIds (t : MissionTask) : List String := t.inspections.filterMap Inspection.externalStepId

def reset (t : MissionTask) : MissionTask :=
  { t with status := .notStarted, inspections := t.inspections.map Inspection.reset }

end MissionTask

namespace MissionRun

def fresh (id name assetCode : String) (robot : Robot) (desiredStart : Instant) : MissionRun where
  id
  missionId := none
  name
  status := .pending
  externalMissionId := none
  description := none
  statusReason := none
  comment := none
  assetCode
  area := none
  robot
  desiredStartTime := desiredStart
  startTime := none
  endTime := none
  estimatedDuration := none
  tasks := []

def withArea (r : MissionRun) (area : Area) : MissionRun := { r with area := some area }

def withTask (r : MissionRun) (t : MissionTask) : MissionRun := { r with tasks := r.tasks ++ [t] }

def withExternalId (r : MissionRun) (externalId : String) : MissionRun :=
  { r with externalMissionId := some externalId }

def findTask? (r : MissionRun) (externalId : String) : Option (Fin r.tasks.length) :=
  r.tasks.findFinIdx? fun t => t.externalTaskId == some externalId

def taskOfOrder? (r : MissionRun) (order : UInt32) : Option MissionTask :=
  r.tasks.find? fun t => t.taskOrder == order

def taskIds (r : MissionRun) : List String := r.tasks.filterMap MissionTask.externalTaskId

def tags (r : MissionRun) : List String := r.tasks.filterMap MissionTask.tagId

end MissionRun

def generatedIdLength : Nat := 36

end MissionTracking
