import MissionTracking.Status

/-!
Status reports of the robot controller. A report names a mission, a task of it or a step of that
task by external ids and carries a status in the controller's own words.
-/
namespace MissionTracking
open Json

inductive StatusEvent where
  | mission (externalMissionId status : String)
  | task (externalMissionId externalTaskId status : String)
  | step (externalMissionId externalTaskId externalStepId status : String)
deriving DecidableEq, Repr

namespace StatusEvent

def level : StatusEvent → Level
  | .mission .. => .mission
  | .task .. => .task
  | .step .. => .step

def externalMissionId : StatusEvent → String
  | .mission m _ => m
  | .task m _ _ => m
  | .step m _ _ _ => m

def status : StatusEvent → String
  | .mission _ s => s
  | .task _ _ s => s
  | .step _ _ _ s => s

/-- The report of a level, from a record that need not name the level. -/
def ofRecord? (j : Json) : Level → Option StatusEvent
  | .mission => do
    let r ← j.record? ["externalMissionId", "status"]
    let mission ← r.required "externalMissionId" string?
    let status ← r.required "status" string?
    some (.mission mission status)
  | .task => do
    let r ← j.record? ["externalMissionId", "externalTaskId", "status"]
    let mission ← r.required "externalMissionId" string?
    let task ← r.required "externalTaskId" string?
    let status ← r.required "status" string?
    some (.task mission task status)
  | .step => do
    let r ← j.record? ["externalMissionId", "externalTaskId", "externalStepId", "status"]
    let mission ← r.required "externalMissionId" string?
    let task ← r.required "externalTaskId" string?
    let step ← r.required "externalStepId" string?
    let status ← r.required "status" string?
    some (.step mission task step status)

def ofJson? (j : Json) : Option StatusEvent := do
  let (variant, body) ← j.tagged? "type" 0
  let level ← Level.all.find? fun l => l.text == variant
  ofRecord? body level

def toJson : StatusEvent → Json
  | .mission m s =>
    .object [("type", .string "mission"), ("externalMissionId", .string m), ("status", .string s)]
  | .task m t s =>
    .object [("type", .string "task"), ("externalMissionId", .string m),
      ("externalTaskId", .string t), ("status", .string s)]
  | .step m t i s =>
    .object [("type", .string "step"), ("externalMissionId", .string m),
      ("externalTaskId", .string t), ("externalStepId", .string i), ("status", .string s)]

end StatusEvent
end MissionTracking
