import MissionTracking.Run.Basic

/-!
Mission runs as JSON documents. Every field is written, null for an unset one; fields that may be
unset may be left out when reading.
-/
namespace MissionTracking
open Json

namespace Inspection

def fields : List String := ["id", "externalStepId", "inspectionType", "status"]

def ofJson? (j : Json) : Option Inspection := do
  let r ← j.record? fields
  let id ← r.required "id" string?
  let externalStepId ← r.optional "externalStepId" string?
  let inspectionType ← r.required "inspectionType" (oneOf? InspectionType.all InspectionType.name)
  let status ← r.required "status" InspectionStatus.ofJson?
  some { id, externalStepId, inspectionType, status }

def toJson (i : Inspection) : Json :=
  .object [("id", .string i.id), ("externalStepId", ofOption .string i.externalStepId),
    ("inspectionType", .string i.inspectionType.name), ("status", i.status.toJson)]

end Inspection

namespace MissionTask

def fields : List String :=
  ["id", "externalTaskId", "taskOrder", "tagId", "description", "status", "inspections"]

def ofJson? (j : Json) : Option MissionTask := do
  let r ← j.record? fields
  let id ← r.required "id" string?
  let externalTaskId ← r.optional "externalTaskId" string?
  let taskOrder ← r.required "taskOrder" uint32?
  let tagId ← r.optional "tagId" string?
  let description ← r.optional "description" string?
  let status ← r.required "status" TaskStatus.ofJson?
  let inspections ← r.required "inspections" (listOf? Inspection.ofJson?)
  some { id, externalTaskId, taskOrder, tagId, description, status, inspections }

def toJson (t : MissionTask) : Json :=
  .object [("id", .string t.id), ("externalTaskId", ofOption .string t.externalTaskId),
    ("taskOrder", ofUInt32 t.taskOrder), ("tagId", ofOption .string t.tagId),
    ("description", ofOption .string t.description), ("status", t.status.toJson),
    ("inspections", ofList Inspection.toJson t.inspections)]

end MissionTask

namespace Robot

def ofJson? (j : Json) : Option Robot := do
  let r ← j.record? ["id", "name", "modelType"]
  let id ← r.required "id" string?
  let name ← r.required "name" string?
  let model ← r.required "modelType" RobotModel.ofJson?
  some { id, name, model }

def toJson (r : Robot) : Json :=
  .object [("id", .string r.id), ("name", .string r.name), ("modelType", r.model.toJson)]

end Robot

namespace Area

def ofJson? (j : Json) : Option Area := do
  let r ← j.record? ["id", "name"]
  let id ← r.required "id" string?
  let name ← r.required "name" string?
  some { id, name }

def toJson (a : Area) : Json := .object [("id", .string a.id), ("name", .string a.name)]

end Area

namespace MissionRun

def fields : List String :=
  ["id", "missionId", "name", "status", "externalMissionId", "description",
    "statusReason", "comment", "assetCode", "area", "robot", "desiredStartTime", "startTime",
    "endTime", "estimatedDuration", "tasks"]

def ofJson? (j : Json) : Option MissionRun := do
  let r ← j.record? fields
  let id ← r.required "id" string?
  let missionId ← r.optional "missionId" string?
  let name ← r.required "name" string?
  let status ← r.required "status" MissionStatus.ofJson?
  let externalMissionId ← r.optional "externalMissionId" string?
  let description ← r.optional "description" string?
  let statusReason ← r.optional "statusReason" string?
  let comment ← r.optional "comment" string?
  let assetCode ← r.required "assetCode" string?
  let area ← r.optional "area" Area.ofJson?
  let robot ← r.required "robot" Robot.ofJson?
  let desiredStartTime ← r.required "desiredStartTime" Instant.ofJson?
  let startTime ← r.optional "startTime" Instant.ofJson?
  let endTime ← r.optional "endTime" Instant.ofJson?
  let estimatedDuration ← r.optional "estimatedDuration" uint64?
  let tasks ← r.required "tasks" (listOf? MissionTask.ofJson?)
  some { id, missionId, name, status, externalMissionId, description, statusReason, comment,
         assetCode, area, robot, desiredStartTime, startTime, endTime, estimatedDuration, tasks }

def toJson (r : MissionRun) : Json :=
  .object [("id", .string r.id), ("missionId", ofOption .string r.missionId),
    ("name", .string r.name), ("status", r.status.toJson),
    ("externalMissionId", ofOption .string r.externalMissionId),
    ("description", ofOption .string r.description),
    ("statusReason", ofOption .string r.statusReason), ("comment", ofOption .string r.comment),
    ("assetCode", .string r.assetCode), ("area", ofOption Area.toJson r.area),
    ("robot", r.robot.toJson), ("desiredStartTime", r.desiredStartTime.toJson),
    ("startTime", ofOption Instant.toJson r.startTime),
    ("endTime", ofOption Instant.toJson r.endTime),
    ("estimatedDuration", ofOption ofUInt64 r.estimatedDuration),
    ("tasks", ofList MissionTask.toJson r.tasks)]

end MissionRun
end MissionTracking
