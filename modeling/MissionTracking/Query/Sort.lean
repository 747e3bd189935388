import MissionTracking.Run.Basic

/-!
The order of listings. Keys are compared one after the other, each in its direction, and the id of
the run, ascending, decides last, so that runs with different ids never tie. Texts compare by code
points, statuses by their place in the lifecycle, and an unset value is less than every other.
-/
namespace MissionTracking

inductive SortField where
  | id
  | name
  | status
  | externalMissionId
  | missionId
  | description
  | statusReason
  | comment
  | assetCode
  | desiredStartTime
  | startTime
  | endTime
  | estimatedDuration
deriving DecidableEq, Repr

inductive SortDirection where
  | ascending
  | descending
deriving DecidableEq, Repr

structure SortKey where
  field : SortField
  direction : SortDirection
deriving DecidableEq, Repr

structure SortSpec where
  keys : List SortKey
deriving DecidableEq, Repr

namespace SortField

def all : List SortField :=
  [.id, .name, .status, .externalMissionId, .missionId, .description, .statusReason,
    .comment, .assetCode, .desiredStartTime, .startTime, .endTime, .estimatedDuration]

def text : SortField → String
  | .id => "id"
  | .name => "name"
  | .status => "status"
  | .externalMissionId => "externalMissionId"
  | .missionId => "missionId"
  | .description => "description"
  | .statusReason => "statusReason"
  | .comment => "comment"
  | .assetCode => "assetCode"
  | .desiredStartTime => "desiredStartTime"
  | .startTime => "startTime"
  | .endTime => "endTime"
  | .estimatedDuration => "estimatedDuration"

def order (f : SortField) (a b : MissionRun) : Ordering :=
  match f with
  | .id => compare a.id b.id
  | .name => compare a.name b.name
  | .status => compare a.status.rank b.status.rank
  | .externalMissionId => compare a.externalMissionId b.externalMissionId
  | .missionId => compare a.missionId b.missionId
  | .description => compare a.description b.description
  | .statusReason => compare a.statusReason b.statusReason
  | .comment => compare a.comment b.comment
  | .assetCode => compare a.assetCode b.assetCode
  | .desiredStartTime => compare a.desiredStartTime b.desiredStartTime
  | .startTime => compare a.startTime b.startTime
  | .endTime => compare a.endTime b.endTime
  | .estimatedDuration => compare a.estimatedDuration b.estimatedDuration

end SortField

namespace SortDirection

def text : SortDirection → String
  | .ascending => "asc"
  | .descending => "desc"

def apply : SortDirection → Ordering → Ordering
  | .ascending, o => o
  | .descending, o => o.swap

end SortDirection

namespace SortKey

def order (k : SortKey) (a b : MissionRun) : Ordering := k.direction.apply (k.field.order a b)

end SortKey

namespace SortSpec

def byName : SortSpec := ⟨[⟨.name, .ascending⟩]⟩

/-- The default order stands in for no keys. -/
def ofKeys (keys : List SortKey) : SortSpec := if keys.isEmpty then byName else ⟨keys⟩

def order (s : SortSpec) (a b : MissionRun) : Ordering :=
  s.keys.foldr (fun k rest => (k.order a b).then rest) (compare a.id b.id)

/-- Runs that tie keep their places. -/
def sort (s : SortSpec) (runs : List MissionRun) : List MissionRun :=
  runs.mergeSort fun a b => (s.order a b).isLE

end SortSpec
end MissionTracking
