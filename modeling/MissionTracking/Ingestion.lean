import MissionTracking.Store
import MissionTracking.Feed
import MissionTracking.Transition.Apply

/-!
Status reports against the store. The run is found by its external mission id, then the task and the
step within the run, and the report is applied in the same change. An id that leads nowhere is an
answer and no error: the controller may go on reporting on runs that were deleted.
-/
namespace MissionTracking
open Json

/-- The first id of a report that leads nowhere, with the ids above it. -/
inductive Unresolved where
  | mission (externalMissionId : String)
  | task (externalMissionId externalTaskId : String)
  | step (externalMissionId externalTaskId externalStepId : String)
deriving DecidableEq, Repr

inductive Outcome where
  | applied (report : TransitionReport)
  | notFound (reference : Unresolved)
deriving DecidableEq, Repr

namespace Unresolved

def text : Unresolved → String
  | .mission m => s!"mission '{m}'"
  | .task m t => s!"task '{t}' in mission '{m}'"
  | .step m t s => s!"step '{s}' of task '{t}' in mission '{m}'"

def toJson : Unresolved → Json
  | .mission m => .object [("level", .string "mission"), ("external_mission_id", .string m)]
  | .task m t =>
    .object [("level", .string "task"), ("external_mission_id", .string m),
      ("external_task_id", .string t)]
  | .step m t s =>
    .object [("level", .string "step"), ("external_mission_id", .string m),
      ("external_task_id", .string t), ("external_step_id", .string s)]

def ofMiss (externalMissionId : String) : StatusReport → Miss → Unresolved
  | .step t s _, .step => .step externalMissionId t s
  | .step t _ _, .task => .task externalMissionId t
  | .task t _, _ => .task externalMissionId t
  | .mission _, _ => .mission externalMissionId

end Unresolved

namespace Outcome

def notifications (externalMissionId : String) : Outcome → List Notification
  | .applied report => report.notifications externalMissionId
  | .notFound _ => []

end Outcome

def StatusReport.mutation (externalMissionId : String) (report : StatusReport) (r : MissionRun) :
    Mutation Outcome :=
  match r.receive report with
  | .ok (changed, transition) => .commit changed (.applied transition)
  | .error miss => .discard (.notFound (.ofMiss externalMissionId report miss))

namespace Store

def ingest (s : Store) (externalMissionId : String) (report : StatusReport) : Store × Outcome :=
  match s.mutate externalMissionId (report.mutation externalMissionId) with
  | some (next, _, outcome) => (next, outcome)
  | none => (s, .notFound (.mission externalMissionId))

/-- Handles an event of the controller. A status outside the vocabulary is an error, whatever is
stored. -/
def handle (s : Store) (e : StatusEvent) : Except TrackingError (Store × Outcome) :=
  (StatusReport.ofEvent e).map (s.ingest e.externalMissionId)

end Store
end MissionTracking
