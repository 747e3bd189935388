import MissionTracking.Event.Basic
import MissionTracking.Query.Page
import MissionTracking.Query.Parameters
import MissionTracking.Run.Assignment
import MissionTracking.Run.Wire
import MissionTracking.Transition.Report
import MissionTracking.Proofs.Json.Record
import MissionTracking.Proofs.Time.Reading

/-!
The readers of single records undo their writers: the parts of a run, the reports of the controller,
assignments, parameters, transitions and pages. A record is written with all its fields in the order
of their declaration.
-/
namespace MissionTracking
open Json

theorem faithful_text? : Faithful (ofOption .string) (optionOf? string?) :=
  faithful_string.option rfl

theorem MissionStatus.faithful : Faithful toJson ofJson? :=
  faithful_oneOf (by intro s; cases s <;> decide) (by intro s t; cases s <;> cases t <;> decide)

theorem TaskStatus.faithful : Faithful toJson ofJson? :=
  faithful_oneOf (by intro s; cases s <;> decide) (by intro s t; cases s <;> cases t <;> decide)

theorem InspectionStatus.faithful : Faithful toJson ofJson? :=
  faithful_oneOf (by intro s; cases s <;> decide) (by intro s t; cases s <;> cases t <;> decide)

theorem RobotModel.faithful : Faithful toJson ofJson? :=
  faithful_oneOf (by intro s; cases s <;> decide) (by intro s t; cases s <;> cases t <;> decide)

theorem InspectionType.faithful : Faithful (fun t => .string (name t)) (oneOf? all name) :=
  faithful_oneOf (by intro s; cases s <;> decide) (by intro s t; cases s <;> cases t <;> decide)

theorem Instant.faithful : Faithful toJson ofJson? where
  plain _ := .string _
  reads t := by
    rw [ofJson?, toJson, string?, Option.bind_some]
    exact t.parse?_text

theorem Inspection.faithful : Faithful toJson ofJson? := by
  refine .record (by decide) (fun _ => rfl) ?plain ?reads
  case plain =>
    intro i
    simp [faithful_text?.plain, InspectionStatus.faithful.plain]
  case reads =>
    intro i
    simp only [Record.required_cons, Record.optional_cons, String.reduceEq, reduceIte,
      faithful_string.bind, faithful_text?.bind, InspectionType.faithful.bind,
      InspectionStatus.faithful.bind]

theorem MissionTask.faithful : Faithful toJson ofJson? := by
  refine .record (by decide) (fun _ => rfl) ?plain ?reads
  case plain =>
    intro t
    simp [faithful_text?.plain, faithful_uint32.plain, TaskStatus.faithful.plain,
      Inspection.faithful.list.plain]
  case reads =>
    intro t
    simp only [Record.required_cons, Record.optional_cons, String.reduceEq, reduceIte,
      faithful_string.bind, faithful_text?.bind, faithful_uint32.bind, TaskStatus.faithful.bind,
      Inspection.faithful.list.bind]

theorem Robot.faithful : Faithful toJson ofJson? := by
  refine .record (by decide) (fun _ => rfl) ?plain ?reads
  case plain =>
    intro r
    simp [RobotModel.faithful.plain]
  case reads =>
    intro r
    simp only [Record.required_cons, String.reduceEq, reduceIte, faithful_string.bind,
      RobotModel.faithful.bind]

theorem Area.faithful : Faithful toJson ofJson? := by
  refine .record (by decide) (fun _ => rfl) ?plain ?reads
  case plain =>
    intro a
    simp
  case reads =>
    intro a
    simp only [Record.required_cons, String.reduceEq, reduceIte, faithful_string.bind]

theorem MissionRun.faithful : Faithful toJson ofJson? := by
  have area := Area.faithful.option rfl
  have time? := Instant.faithful.option rfl
  have duration := faithful_uint64.option rfl
  have tasks := MissionTask.faithful.list
  refine .record (by decide) (fun _ => rfl) ?plain ?reads
  case plain =>
    intro r
    simp [faithful_text?.plain, MissionStatus.faithful.plain, area.plain, Robot.faithful.plain,
      Instant.faithful.plain, time?.plain, duration.plain, tasks.plain]
  case reads =>
    intro r
    simp only [Record.required_cons, Record.optional_cons, String.reduceEq, reduceIte,
      faithful_string.bind, faithful_text?.bind, MissionStatus.faithful.bind, area.bind,
      Robot.faithful.bind, Instant.faithful.bind, time?.bind, duration.bind, tasks.bind]

theorem StepId.faithful : Faithful
    (fun s : StepId => .object [("inspectionId", .string s.inspectionId),
      ("externalStepId", .string s.externalStepId)])
    (fun j => do
      let r ← j.record? ["inspectionId", "externalStepId"]
      let inspectionId ← r.required "inspectionId" string?
      let externalStepId ← r.required "externalStepId" string?
      some { inspectionId, externalStepId }) := by
  refine .record (by decide) (fun _ => rfl) ?plain ?reads
  case plain =>
    intro s
    simp
  case reads =>
    intro s
    simp only [Record.required_cons, String.reduceEq, reduceIte, faithful_string.bind]

theorem TaskIds.faithful : Faithful toJson ofJson? := by
  refine .record (by decide) (fun _ => rfl) ?plain ?reads
  case plain =>
    intro ids
    simp [faithful_uint32.plain, faithful_text?.plain, StepId.faithful.list.plain]
  case reads =>
    intro ids
    simp only [Record.required_cons, Record.optional_cons, Record.withDefault_cons,
      String.reduceEq, reduceIte, faithful_uint32.bind, faithful_text?.bind,
      StepId.faithful.list.bind]

theorem Assignment.faithful : Faithful toJson ofJson? := by
  refine .record (by decide) (fun _ => rfl) ?plain ?reads
  case plain =>
    intro a
    simp [faithful_text?.plain, TaskIds.faithful.list.plain]
  case reads =>
    intro a
    simp only [Record.optional_cons, Record.withDefault_cons, String.reduceEq, reduceIte,
      faithful_text?.bind, TaskIds.faithful.list.bind]

theorem QueryParameters.faithful : Faithful toJson ofJson? := by
  have status := MissionStatus.faithful.option rfl
  have model := RobotModel.faithful.option rfl
  have seconds := faithful_int64.option rfl
  have count := faithful_uint32.option rfl
  refine .record (by decide) (fun _ => rfl) ?plain ?reads
  case plain =>
    intro p
    simp [faithful_text?.plain, status.plain, model.plain, seconds.plain, count.plain]
  case reads =>
    intro p
    simp only [Record.optional_cons, String.reduceEq, reduceIte, faithful_text?.bind,
      status.bind, model.bind, seconds.bind, count.bind]

theorem PageMetadata.faithful : Faithful toJson ofJson? := by
  refine .record (by decide) (fun _ => rfl) ?plain ?reads
  case plain =>
    intro m
    simp [faithful_uint32.plain, faithful_uint64.plain, faithful_bool.plain]
  case reads =>
    intro m
    simp only [Record.required_cons, String.reduceEq, reduceIte, faithful_uint32.bind,
      faithful_uint64.bind, faithful_bool.bind]

namespace StatusEvent

def members : StatusEvent → List (String × Json)
  | .mission m s => [("externalMissionId", .string m), ("status", .string s)]
  | .task m t s =>
    [("externalMissionId", .string m), ("externalTaskId", .string t), ("status", .string s)]
  | .step m t i s =>
    [("externalMissionId", .string m), ("externalTaskId", .string t), ("externalStepId", .string i),
      ("status", .string s)]

theorem toJson_eq (e : StatusEvent) :
    e.toJson = .object (("type", .string e.level.text) :: e.members) := by
  cases e <;> rfl

theorem ofRecord?_members (e : StatusEvent) : ofRecord? (.object e.members) e.level = some e := by
  cases e with
  | mission | task | step =>
    rw [members, level, ofRecord?, record?_bind]
    case names => rfl
    case distinct => decide
    simp only [Record.required_cons, String.reduceEq, reduceIte, faithful_string.bind]

theorem tagged?_toJson (e : StatusEvent) :
    e.toJson.tagged? "type" 0 = some (e.level.text, .object e.members) := by
  rw [toJson_eq, tagged?_object]
  case held => cases e <;> rfl
  case absent => cases e <;> simp [members]

theorem find?_level (l : Level) : (Level.all.find? fun k => k.text == l.text) = some l := by
  cases l <;> decide

theorem faithful : Faithful toJson ofJson? where
  plain e := by cases e <;> simp [toJson]
  reads e := by
    rw [ofJson?, tagged?_toJson, Option.bind_eq_bind, Option.bind_some]
    dsimp only
    rw [find?_level, Option.bind_eq_bind, Option.bind_some, ofRecord?_members]

end StatusEvent

namespace StatusTarget

def members : StatusTarget → List (String × Json)
  | .mission => []
  | .task id order => [("task_id", .string id), ("task_order", ofUInt32 order)]
  | .inspection taskId inspectionId =>
    [("task_id", .string taskId), ("inspection_id", .string inspectionId)]

theorem toJson_eq (t : StatusTarget) :
    t.toJson = .object (("entity", .string t.entity) :: t.members) := by
  cases t <;> rfl

theorem tagged?_toJson (t : StatusTarget) :
    t.toJson.tagged? "entity" 3 = some (t.entity, .object t.members) := by
  rw [toJson_eq, tagged?_object]
  case held =>
    cases t with
    | mission | inspection => rfl
    | task id order => simp [maxDepth, isHeld, entity, members, isHeld_ofUInt32]
  case absent => cases t <;> simp [members]

theorem faithful : Faithful toJson ofJson? where
  plain t := by cases t <;> simp [toJson, faithful_uint32.plain]
  reads t := by
    rw [ofJson?, tagged?_toJson, Option.bind_eq_bind, Option.bind_some]
    cases t with
    | mission => rfl
    | task id order =>
      dsimp only [entity, members]
      rw [if_neg (by decide), if_pos rfl, record?_bind]
      case names => rfl
      case distinct => decide
      simp only [Record.required_cons, String.reduceEq, reduceIte, faithful_string.bind,
        faithful_uint32.bind]
    | inspection taskId inspectionId =>
      dsimp only [entity, members]
      rw [if_neg (by decide), if_neg (by decide), if_pos rfl, record?_bind]
      case names => rfl
      case distinct => decide
      simp only [Record.required_cons, String.reduceEq, reduceIte, faithful_string.bind]

end StatusTarget

theorem ChangeCause.faithful : Faithful (fun c => .string (name c)) (oneOf? all name) :=
  faithful_oneOf (by intro c; cases c <;> decide) (by intro c d; cases c <;> cases d <;> decide)

theorem StatusChange.faithful : Faithful toJson ofJson? := by
  refine .record (by decide) (fun _ => rfl) ?plain ?reads
  case plain =>
    intro c
    simp [StatusTarget.faithful.plain]
  case reads =>
    intro c
    simp only [Record.required_cons, String.reduceEq, reduceIte, StatusTarget.faithful.bind,
      faithful_string.bind, ChangeCause.faithful.bind]

theorem TransitionReport.faithful : Faithful toJson ofJson? := by
  refine .record (by decide) (fun _ => rfl) ?plain ?reads
  case plain =>
    intro r
    simp [StatusChange.faithful.list.plain, faithful_bool.plain]
  case reads =>
    intro r
    simp only [Record.required_cons, String.reduceEq, reduceIte, faithful_string.bind,
      StatusChange.faithful.list.bind, faithful_bool.bind]

end MissionTracking
