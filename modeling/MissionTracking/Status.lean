import MissionTracking.Text.Blank
import MissionTracking.Text.Fold
import MissionTracking.Json.Record

/-!
The statuses of missions, tasks and inspections and the robot models. Each value has a name, used in
documents, and a text, used in reports, listings and messages. Robot models and mission statuses are
read leniently, task and inspection statuses only exactly as they are written.
-/
namespace MissionTracking

inductive Level where
  | mission
  | task
  | step
deriving DecidableEq, Repr

namespace Level

def all : List Level := [.mission, .task, .step]

def text : Level → String
  | .mission => "mission"
  | .task => "task"
  | .step => "step"

end Level

/-- The lifecycle of a mission run, in the order in which listings sort it. -/
inductive MissionStatus where
  | pending
  | ongoing
  | paused
  | aborted
  | failed
  | successful
deriving DecidableEq, Repr

inductive TaskStatus where
  | notStarted
  | inProgress
  | successful
  | failed
  | partiallySuccessful
deriving DecidableEq, Repr

inductive InspectionStatus where
  | notStarted
  | inProgress
  | successful
  | failed
deriving DecidableEq, Repr

inductive RobotModel where
  | taroN
  | exR2
  | robot
  | turtlebot
  | anymalX
  | anymalD
deriving DecidableEq, Repr

inductive UnreadableLabel where
  | missionStatus (text : String)
  | taskStatus (text : String)
  | inspectionStatus (text : String)
  | robotModel (text : String)
deriving DecidableEq, Repr

def UnreadableLabel.message : UnreadableLabel → String
  | .missionStatus s => s!"Invalid mission status: {s}"
  | .taskStatus s => s!"Invalid task status: {s}"
  | .inspectionStatus s => s!"Invalid inspection status: {s}"
  | .robotModel s => s!"Invalid robot model type: {s}"

namespace MissionStatus

def all : List MissionStatus := [.pending, .ongoing, .paused, .aborted, .failed, .successful]

def name : MissionStatus → String
  | .pending => "Pending"
  | .ongoing => "Ongoing"
  | .paused => "Paused"
  | .aborted => "Aborted"
  | .failed => "Failed"
  | .successful => "Successful"

def text : MissionStatus → String
  | .pending => "pending"
  | .ongoing => "ongoing"
  | .paused => "paused"
  | .aborted => "aborted"
  | .failed => "failed"
  | .successful => "successful"

def rank : MissionStatus → Nat
  | .pending => 0
  | .ongoing => 1
  | .paused => 2
  | .aborted => 3
  | .failed => 4
  | .successful => 5

def isActive (s : MissionStatus) : Bool := s == .ongoing

/-- Reads the text of a status in any case, with white space around it. -/
def ofText? (s : String) : Except UnreadableLabel MissionStatus :=
  match all.find? fun a => a.text == Text.foldCase (Text.trimmed s) with
  | some a => .ok a
  | none => .error (.missionStatus s)

theorem text_injective {a b : MissionStatus} : a.text = b.text ↔ a = b := by
  cases a <;> cases b <;> decide

end MissionStatus

namespace TaskStatus

def all : List TaskStatus := [.notStarted, .inProgress, .successful, .failed, .partiallySuccessful]

def name : TaskStatus → String
  | .notStarted => "NotStarted"
  | .inProgress => "InProgress"
  | .successful => "Successful"
  | .failed => "Failed"
  | .partiallySuccessful => "PartiallySuccessful"

def text : TaskStatus → String
  | .notStarted => "not_started"
  | .inProgress => "in_progress"
  | .successful => "successful"
  | .failed => "failed"
  | .partiallySuccessful => "partially_successful"

def ofText? (s : String) : Except UnreadableLabel TaskStatus :=
  match all.find? fun a => a.text == s with
  | some a => .ok a
  | none => .error (.taskStatus s)

theorem text_injective {a b : TaskStatus} : a.text = b.text ↔ a = b := by
  cases a <;> cases b <;> decide

end TaskStatus

namespace InspectionStatus

def all : List InspectionStatus := [.notStarted, .inProgress, .successful, .failed]

def name : InspectionStatus → String
  | .notStarted => "NotStarted"
  | .inProgress => "InProgress"
  | .successful => "Successful"
  | .failed => "Failed"

def text : InspectionStatus → String
  | .notStarted => "not_started"
  | .inProgress => "in_progress"
  | .successful => "successful"
  | .failed => "failed"

def ofText? (s : String) : Except UnreadableLabel InspectionStatus :=
  match all.find? fun a => a.text == s with
  | some a => .ok a
  | none => .error (.inspectionStatus s)

theorem text_injective {a b : InspectionStatus} : a.text = b.text ↔ a = b := by
  cases a <;> cases b <;> decide

end InspectionStatus

namespace RobotModel

def all : List RobotModel := [.taroN, .exR2, .robot, .turtlebot, .anymalX, .anymalD]

def name : RobotModel → String
  | .taroN => "TaroN"
  | .exR2 => "ExR2"
  | .robot => "Robot"
  | .turtlebot => "Turtlebot"
  | .anymalX => "AnymalX"
  | .anymalD => "AnymalD"

def ofText? (s : String) : Except UnreadableLabel RobotModel :=
  match all.find? fun a => Text.foldCase a.name == Text.foldCase (Text.trimmed s) with
  | some a => .ok a
  | none => .error (.robotModel s)

end RobotModel

namespace MissionStatus

def ofJson? : Json → Option MissionStatus := Json.oneOf? all name

def toJson (s : MissionStatus) : Json := .string s.name

end MissionStatus

namespace TaskStatus

def ofJson? : Json → Option TaskStatus := Json.oneOf? all name

def toJson (s : TaskStatus) : Json := .string s.name

end TaskStatus

namespace InspectionStatus

def ofJson? : Json → Option InspectionStatus := Json.oneOf? all name

def toJson (s : InspectionStatus) : Json := .string s.name

end InspectionStatus

namespace RobotModel

def ofJson? : Json → Option RobotModel := Json.oneOf? all name

def toJson (m : RobotModel) : Json := .string m.name

end RobotModel

end MissionTracking
