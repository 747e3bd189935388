import MissionTracking.Query.Filter
import MissionTracking.Query.OrderBy
import MissionTracking.Query.Page

/-!
A query with its filter and order, evaluated over runs in memory: the runs that fit, in order, of
which a window is returned together with the number of all of them.
-/
namespace MissionTracking

structure RunQuery where
  filter : RunFilter
  sort : SortSpec
deriving DecidableEq

structure QueryPage where
  items : List MissionRun
  totalCount : UInt64
deriving DecidableEq

structure PagedRuns where
  items : List MissionRun
  metadata : PageMetadata
deriving DecidableEq

namespace RunQuery

def byName : RunQuery := ⟨.all, .byName⟩

def matching (q : RunQuery) (runs : List MissionRun) : List MissionRun :=
  q.sort.sort (runs.filter q.filter.fits)

def select (q : RunQuery) (runs : List MissionRun) (window : PageWindow) : QueryPage :=
  let found := q.matching runs
  ⟨(found.drop window.offset.toNat).take window.limit.toNat, UInt64.ofNat found.length⟩

end RunQuery
end MissionTracking
