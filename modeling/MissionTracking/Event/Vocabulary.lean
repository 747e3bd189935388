import MissionTracking.Error
import MissionTracking.Event.Basic

/-!
The controller's words for statuses. They are read in any case and with white space around them.
Tasks and steps that were cancelled have failed; a mission that was cancelled was aborted, and one
that succeeded in part succeeded.
-/
namespace MissionTracking.Vocabulary

def missionWords : List (String × MissionStatus) :=
  [("not_started", .pending), ("in_progress", .ongoing), ("paused", .paused), ("aborted", .aborted),
    ("cancelled", .aborted), ("failed", .failed), ("successful", .successful),
    ("partially_successful", .successful)]

def taskWords : List (String × TaskStatus) :=
  [("not_started", .notStarted), ("in_progress", .inProgress), ("successful", .successful),
    ("partially_successful", .partiallySuccessful), ("failed", .failed), ("cancelled", .failed)]

def stepWords : List (String × InspectionStatus) :=
  [("not_started", .notStarted), ("in_progress", .inProgress), ("successful", .successful),
    ("failed", .failed), ("cancelled", .failed)]

def normalized (value : String) : String := Text.foldCase (Text.trimmed value)

def meaning (level : Level) (words : List (String × α)) (value : String) : Except TrackingError α :=
  match words.lookup (normalized value) with
  | some status => .ok status
  | none => .error (.unknownStatus level value)

def missionStatus (value : String) : Except TrackingError MissionStatus :=
  meaning .mission missionWords value

def taskStatus (value : String) : Except TrackingError TaskStatus := meaning .task taskWords value

def stepStatus (value : String) : Except TrackingError InspectionStatus :=
  meaning .step stepWords value

end MissionTracking.Vocabulary
