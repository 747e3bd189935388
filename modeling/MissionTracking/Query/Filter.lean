import MissionTracking.Query.TimeWindow
import MissionTracking.Query.Parameters
import MissionTracking.Text.Fold

/-!
Conditions on runs. A filter is the conjunction of its predicates; the empty filter fits every run.
Texts are compared after folding the case of the run's side only: the side of the predicate is
folded when the filter is made from parameters.
-/
namespace MissionTracking
open Text

inductive Predicate where
  | assetCode (code : String)
  | status (status : MissionStatus)
  | robotId (id : String)
  | robotModel (model : RobotModel)
  | area (name : String)
  | nameContains (needle : String)
  | robotNameContains (needle : String)
  | tagContains (needle : String)
  | startTime (window : TimeWindow)
  | endTime (window : TimeWindow)
  | desiredStartTime (window : TimeWindow)
deriving DecidableEq

namespace Predicate

def fits (p : Predicate) (r : MissionRun) : Bool :=
  match p with
  | .assetCode code => foldCase r.assetCode == code
  | .status s => r.status == s
  | .robotId id => r.robot.id == id
  | .robotModel model => r.robot.model == model
  | .area name => r.area.any fun a => foldCase a.name == name
  | .nameContains needle => Text.contains (foldCase r.name) needle
  | .robotNameContains needle => Text.contains (foldCase r.robot.name) needle
  | .tagContains needle => r.tags.any fun tag => Text.contains (foldCase tag) needle
  | .startTime window => window.admits r.startTime
  | .endTime window => window.admits r.endTime
  | .desiredStartTime window => window.contains r.desiredStartTime

def field : Predicate → String
  | .assetCode _ => "assetCode"
  | .status _ => "status"
  | .robotId _ => "robotId"
  | .robotModel _ => "robotModelType"
  | .area _ => "area"
  | .nameContains _ => "nameSearch"
  | .robotNameContains _ => "robotNameSearch"
  | .tagContains _ => "tagSearch"
  | .startTime _ => "startTime"
  | .endTime _ => "endTime"
  | .desiredStartTime _ => "desiredStartTime"

end Predicate

structure RunFilter where
  predicates : List Predicate
deriving DecidableEq

def unlessBlank (s : String) : Option String :=
  if IsBlankText s then none else some (trimmed s)

def normalized (s : String) : Option String := (unlessBlank s).map foldCase

namespace RunFilter

def all : RunFilter := ⟨[]⟩

def fits (f : RunFilter) (r : MissionRun) : Bool := f.predicates.all (·.fits r)

/-- One predicate for each parameter that is given and not blank, in a fixed order. The windows are
checked in the order start, end, desired start. -/
def ofParameters (p : QueryParameters) : Except ValidationError RunFilter := do
  let start ← TimeWindow.ofBounds "startTime" p.minStartTime p.maxStartTime
  let finish ← TimeWindow.ofBounds "endTime" p.minEndTime p.maxEndTime
  let desired ← TimeWindow.ofBounds "desiredStartTime" p.minDesiredStartTime p.maxDesiredStartTime
  .ok ⟨[(p.assetCode.bind normalized).map .assetCode,
    p.status.map .status,
    (p.robotId.bind unlessBlank).map .robotId,
    p.robotModel.map .robotModel,
    (p.area.bind normalized).map .area,
    (p.nameSearch.bind normalized).map .nameContains,
    (p.robotNameSearch.bind normalized).map .robotNameContains,
    (p.tagSearch.bind normalized).map .tagContains,
    start.map .startTime,
    finish.map .endTime,
    desired.map .desiredStartTime].filterMap id⟩

end RunFilter
end MissionTracking
