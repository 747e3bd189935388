import MissionTracking.Error

/-!
What a run must satisfy before it is first stored. It describes a mission that has not begun, its
tasks stand in strictly increasing order, and its external ids are unambiguous: no two tasks share
one, and no two inspections of one task. The first fault in the order of the checks is the one that
is reported.
-/
namespace MissionTracking

def firstRepeated (seen : List String) : List String → Option String
  | [] => none
  | a :: as => if a ∈ seen then some a else firstRepeated (a :: seen) as

namespace MissionRun

def lengthFault (field value : String) : Option RunFault :=
  if maxTextBytes < value.utf8ByteSize then some (.textTooLong field value.utf8ByteSize) else none

def orderFault : List MissionTask → Option RunFault
  | a :: b :: ts =>
    if b.taskOrder ≤ a.taskOrder then some (.orderNotIncreasing b.taskOrder a.taskOrder)
    else orderFault (b :: ts)
  | _ => none

/-- A task that has begun, or else an inspection of it that has. -/
def begunFault (t : MissionTask) : Option RunFault :=
  if t.status ≠ .notStarted then some (.taskBegun t.taskOrder t.status)
  else (t.inspections.find? fun i => i.status != .notStarted).map fun i =>
    .inspectionBegun i.id t.taskOrder i.status

/-- An external task id that an earlier task has, or an external step id that is repeated within its
task. -/
def externalIdFault (seen : List String) : List MissionTask → Option RunFault
  | [] => none
  | t :: ts =>
    match t.externalTaskId.bind fun e => if e ∈ seen then some e else none with
    | some e => some (.duplicateTaskId e)
    | none =>
      match firstRepeated [] t.stepIds with
      | some e => some (.duplicateStepId e t.taskOrder)
      | none => externalIdFault (t.externalTaskId.toList ++ seen) ts

def fault? (r : MissionRun) : Option RunFault :=
  (if Text.IsBlankText r.name then some .blankName else none) <|>
  (if Text.IsBlankText r.assetCode then some .blankAssetCode else none) <|>
  lengthFault "name" r.name <|>
  r.description.bind (lengthFault "description") <|>
  r.comment.bind (lengthFault "comment") <|>
  (if r.status ≠ .pending then some (.notPending r.status) else none) <|>
  orderFault r.tasks <|>
  r.tasks.findSome? begunFault <|>
  externalIdFault [] r.tasks

def checkExternalIds (r : MissionRun) : Except ValidationError Unit :=
  match externalIdFault [] r.tasks with
  | some fault => .error (.missionRun fault)
  | none => .ok ()

def validate (r : MissionRun) : Except ValidationError Unit :=
  match r.fault? with
  | some fault => .error (.missionRun fault)
  | none => .ok ()

end MissionRun
end MissionTracking
