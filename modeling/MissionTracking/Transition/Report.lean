import MissionTracking.Status

/-!
What a transition changed: one entry for each status that has a new value, with the texts before and
after and the reason.
-/
namespace MissionTracking
open Json

inductive StatusTarget where
  | mission
  | task (id : String) (order : UInt32)
  | inspection (taskId inspectionId : String)
deriving DecidableEq, Repr

inductive ChangeCause where
  | reported
  /-- The controller reconnected and earlier progress no longer holds. -/
  | recoveryReset
deriving DecidableEq, Repr

structure StatusChange where
  target : StatusTarget
  before : String
  after : String
  cause : ChangeCause
deriving DecidableEq, Repr

structure TransitionReport where
  missionRunId : String
  changes : List StatusChange
  recoveryTriggered : Bool
deriving DecidableEq, Repr

namespace ChangeCause

def all : List ChangeCause := [.reported, .recoveryReset]

def name : ChangeCause → String
  | .reported => "reported"
  | .recoveryReset => "recovery_reset"

end ChangeCause

namespace StatusTarget

def entity : StatusTarget → String
  | .mission => "mission"
  | .task .. => "task"
  | .inspection .. => "inspection"

/-- A target stands in a change, in the list of changes of a report. -/
def ofJson? (j : Json) : Option StatusTarget := do
  let (variant, body) ← j.tagged? "entity" 3
  if variant = "mission" then
    match body with
    | .array (_ :: _) => none
    | _ => some .mission
  else if variant = "task" then do
    let r ← body.record? ["task_id", "task_order"]
    let id ← r.required "task_id" string?
    let order ← r.required "task_order" uint32?
    some (.task id order)
  else if variant = "inspection" then do
    let r ← body.record? ["task_id", "inspection_id"]
    let taskId ← r.required "task_id" string?
    let inspectionId ← r.required "inspection_id" string?
    some (.inspection taskId inspectionId)
  else none

def toJson : StatusTarget → Json
  | .mission => .object [("entity", .string "mission")]
  | .task id order =>
    .object [("entity", .string "task"), ("task_id", .string id), ("task_order", ofUInt32 order)]
  | .inspection taskId inspectionId =>
    .object [("entity", .string "inspection"), ("task_id", .string taskId),
      ("inspection_id", .string inspectionId)]

end StatusTarget

namespace StatusChange

/-- The entry for a write, unless it left the value as it was. -/
def between (target : StatusTarget) (before after : String) (cause : ChangeCause) :
    List StatusChange :=
  if before = after then [] else [⟨target, before, after, cause⟩]

def ofJson? (j : Json) : Option StatusChange := do
  let r ← j.record? ["target", "from", "to", "cause"]
  let target ← r.required "target" StatusTarget.ofJson?
  let before ← r.required "from" string?
  let after ← r.required "to" string?
  let cause ← r.required "cause" (oneOf? ChangeCause.all ChangeCause.name)
  some { target, before, after, cause }

def toJson (c : StatusChange) : Json :=
  .object [("target", c.target.toJson), ("from", .string c.before), ("to", .string c.after),
    ("cause", .string c.cause.name)]

end StatusChange

namespace TransitionReport

def isNoop (r : TransitionReport) : Bool := r.changes.isEmpty

def reported (r : TransitionReport) : List StatusChange :=
  r.changes.filter fun c => c.cause == .reported

def resets (r : TransitionReport) : List StatusChange :=
  r.changes.filter fun c => c.cause == .recoveryReset

def ofJson? (j : Json) : Option TransitionReport := do
  let r ← j.record? ["mission_run_id", "changes", "recovery_triggered"]
  let missionRunId ← r.required "mission_run_id" string?
  let changes ← r.required "changes" (listOf? StatusChange.ofJson?)
  let recoveryTriggered ← r.required "recovery_triggered" bool?
  some { missionRunId, changes, recoveryTriggered }

def toJson (r : TransitionReport) : Json :=
  .object [("mission_run_id", .string r.missionRunId),
    ("changes", ofList StatusChange.toJson r.changes),
    ("recovery_triggered", .bool r.recoveryTriggered)]

end TransitionReport
end MissionTracking
