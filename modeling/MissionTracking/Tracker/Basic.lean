import MissionTracking.Log.Entries

/-!
The tracker: the stored runs, the feed of their changes, the limits of listings, and the missions
whose reports are being applied. An operation returns its answer, the next tracker and the log
records that it emitted.
-/
namespace MissionTracking

structure Tracker where
  store : Store
  feed : Feed
  publishes : Bool
  limits : PageLimits
  /-- The external ids of missions with a report being applied, once for each such report. -/
  inFlight : List String

structure Reply (α : Type) where
  answer : α
  tracker : Tracker
  log : List Log.Record

namespace Tracker

def fresh (limits : PageLimits) (feedCapacity : Nat) (publishes : Bool) : Tracker :=
  ⟨.empty, .ofCapacity feedCapacity, publishes, limits, []⟩

def reply (t : Tracker) (answer : α) : Reply α := ⟨answer, t, []⟩

end Tracker
end MissionTracking
