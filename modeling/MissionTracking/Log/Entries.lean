import MissionTracking.Log.Record
import MissionTracking.Text.Quoted
import MissionTracking.Ingestion
import MissionTracking.Query.Plan

/-!
The records of the operations on mission runs, each with its wording and its fields.
-/
namespace MissionTracking

def StatusTarget.detail : StatusTarget → String
  | .mission => "Mission"
  | .task id order => s!"Task \x7b task_id: {Text.quoted id}, task_order: {order} \x7d"
  | .inspection taskId inspectionId =>
    s!"Inspection \x7b task_id: {Text.quoted taskId}, inspection_id: {Text.quoted inspectionId} \x7d"

namespace Log.Record

def dispatching (e : StatusEvent) : Record where
  severity := .trace
  component := .sequencer
  message := "Dispatching status event"
  fields := [("external_mission_id", .text e.externalMissionId), ("event_type", .text e.level.text)]

def matchedStored (missionRunId externalMissionId : String) : Record where
  severity := .debug
  component := .ingestor
  message := "Status report matched the stored status"
  fields :=
    [("mission_run_id", .text missionRunId), ("external_mission_id", .text externalMissionId)]

def applied (missionRunId externalMissionId : String) (c : StatusChange) : Record where
  severity := .info
  component := .ingestor
  message := "Applied status report"
  fields := [("mission_run_id", .text missionRunId),
    ("external_mission_id", .text externalMissionId), ("entity", .text c.target.entity),
    ("from", .text c.before), ("status", .text c.after)]

def recovered (missionRunId externalMissionId : String) (resets : Nat) : Record where
  severity := .info
  component := .ingestor
  message := "Controller reconnected mid-mission, reset downstream progress"
  fields := [("mission_run_id", .text missionRunId),
    ("external_mission_id", .text externalMissionId), ("resets", .number resets)]

def reset (missionRunId : String) (c : StatusChange) : Record where
  severity := .debug
  component := .ingestor
  message := "Recovery reset"
  fields := [("mission_run_id", .text missionRunId), ("entity", .text c.target.detail),
    ("from", .text c.before), ("status", .text c.after)]

def published (missionRunId : String) (sent subscribers : Nat) : Record where
  severity := .debug
  component := .ingestor
  message := "Published status changes"
  fields := [("mission_run_id", .text missionRunId), ("sent", .number sent),
    ("subscribers", .number subscribers)]

def unresolved (externalMissionId : String) (reference : Unresolved) : Record where
  severity := .warn
  component := .ingestor
  message := "Could not resolve status report, ignoring it"
  fields := [("external_mission_id", .text externalMissionId), ("unresolved", .text reference.text)]

def created (r : MissionRun) : Record where
  severity := .info
  component := .service
  message := "Created mission run"
  fields := [("mission_run_id", .text r.id), ("tasks", .number r.tasks.length)]

def deleted (r : MissionRun) : Record where
  severity := .info
  component := .service
  message := "Deleted mission run"
  fields := [("mission_run_id", .text r.id)]

def assigned (r : MissionRun) : Record where
  severity := .info
  component := .service
  message := "Assigned external ids"
  fields :=
    [("mission_run_id", .text r.id), ("external_mission_id", .text (r.externalMissionId.getD ""))]

def querying (plan : QueryPlan) : Record where
  severity := .debug
  component := .queryEngine
  message := "Querying mission runs"
  fields := [("predicates", .number plan.query.filter.predicates.length),
    ("sort_keys", .number plan.query.sort.keys.length),
    ("page_number", .number plan.page.number.toNat), ("page_size", .number plan.page.size.toNat)]

end Log.Record

/-- The records of a report that was applied; the last one only when there is a feed, with the
number of its subscribers. -/
def TransitionReport.records (r : TransitionReport) (externalMissionId : String)
    (subscribers : Option Nat) : List Log.Record :=
  if r.isNoop then [.matchedStored r.missionRunId externalMissionId]
  else
    r.reported.map (.applied r.missionRunId externalMissionId) ++
    (if r.recoveryTriggered then
      .recovered r.missionRunId externalMissionId r.resets.length ::
      r.resets.map (.reset r.missionRunId)
    else []) ++
    (subscribers.map (.published r.missionRunId r.changes.length)).toList

def Outcome.records (externalMissionId : String) (subscribers : Option Nat) :
    Outcome → List Log.Record
  | .applied report => report.records externalMissionId subscribers
  | .notFound reference => [.unresolved externalMissionId reference]

end MissionTracking
