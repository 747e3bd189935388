import MissionTracking.Query.Selection

/-!
A listing from its parameters to one page. The parameters are checked in a fixed order, first the
sort specification, then the page, then the filter, and before any run is looked at. A page beyond
the last one is an error and not an empty page.
-/
namespace MissionTracking

structure PageLimits where
  defaultSize : UInt32
  maxSize : UInt32
deriving DecidableEq, Repr

def PageLimits.standard : PageLimits := ⟨10, 100⟩

structure QueryPlan where
  query : RunQuery
  page : PageRequest
deriving DecidableEq

namespace QueryPlan

def ofParameters (limits : PageLimits) (p : QueryParameters) :
    Except ValidationError QueryPlan := do
  let sort ← SortSpec.parse p.orderBy
  let page ← PageRequest.ofParts (p.pageNumber.getD 1) (p.pageSize.getD limits.defaultSize)
    limits.maxSize
  let filter ← RunFilter.ofParameters p
  .ok ⟨⟨filter, sort⟩, page⟩

def run (plan : QueryPlan) (runs : List MissionRun) : Except TrackingError PagedRuns :=
  let found := plan.query.select runs plan.page.window
  (plan.page.checkRange found.totalCount).map fun _ =>
    ⟨found.items, plan.page.metadata found.totalCount⟩

end QueryPlan
end MissionTracking
