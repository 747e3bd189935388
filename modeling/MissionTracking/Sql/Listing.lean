import MissionTracking.Sql.Statement
import MissionTracking.Query.Selection

/-!
Queries as statements: each predicate is one condition and each sort key one term of the order.
Columns come from a closed list, so a field that was not recognised never reaches a statement, and
everything that a caller supplies is bound.
-/
namespace MissionTracking

def SortField.column : SortField → Sql.Column
  | .id => .id
  | .name => .name
  | .status => .statusRank
  | .externalMissionId => .externalMissionId
  | .missionId => .missionId
  | .description => .description
  | .statusReason => .statusReason
  | .comment => .comment
  | .assetCode => .assetCode
  | .desiredStartTime => .desiredStartTime
  | .startTime => .startTime
  | .endTime => .endTime
  | .estimatedDuration => .estimatedDuration

namespace Sql

def Condition.ofPredicate : Predicate → Condition
  | .assetCode code => .equalsFolded .assetCode code
  | .status status => .equals .status status.text
  | .robotId id => .equals .robotId id
  | .robotModel model => .equals .robotModelType model.name
  | .area name => .equalsFolded .areaName name
  | .nameContains needle => .containsFolded .name needle
  | .robotNameContains needle => .containsFolded .robotName needle
  | .tagContains needle => .someTagContains needle
  | .startTime w => .within .startTime true w.min w.max
  | .endTime w => .within .endTime true w.min w.max
  | .desiredStartTime w => .within .desiredStartTime false w.min w.max

def OrderTerm.ofKey (k : SortKey) : OrderTerm := ⟨k.field.column, k.direction == .ascending⟩

/-- The largest offset that can be bound. -/
def maxOffset : UInt64 := 9223372036854775807

def Paging.ofWindow (sort : SortSpec) (w : PageWindow) : Paging where
  order := sort.keys.map OrderTerm.ofKey
  limit := Int64.ofInt w.limit.toNat
  offset := Int64.ofInt (min w.offset maxOffset).toNat

namespace Statement

def count (f : RunFilter) : Statement := ⟨.count, f.predicates.map Condition.ofPredicate, none⟩

def page (q : RunQuery) (w : PageWindow) : Statement :=
  ⟨.payload, q.filter.predicates.map Condition.ofPredicate, some (Paging.ofWindow q.sort w)⟩

end Statement
end Sql
end MissionTracking
