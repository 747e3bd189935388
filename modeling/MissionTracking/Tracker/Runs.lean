import MissionTracking.Tracker.Basic

/-!
The operations on runs that callers ask for: create, read, delete, record external ids and list.
-/
namespace MissionTracking.Tracker

def create (t : Tracker) (r : MissionRun) : Reply (Except TrackingError MissionRun) :=
  match r.validate.bind fun _ => t.store.create r with
  | .ok store => ⟨.ok r, { t with store }, [.created r]⟩
  | .error e => t.reply (.error (.validation e))

def read (t : Tracker) (id : String) : Except TrackingError MissionRun :=
  match t.store.find? id with
  | some r => .ok r
  | none => .error (.notFound id)

def delete (t : Tracker) (id : String) : Reply (Except TrackingError MissionRun) :=
  match t.store.delete id with
  | some (store, r) => ⟨.ok r, { t with store }, [.deleted r]⟩
  | none => t.reply (.error (.notFound id))

def assign (t : Tracker) (id : String) (a : Assignment) : Reply (Except TrackingError MissionRun) :=
  match t.store.assign id a with
  | .ok (some (store, r)) => ⟨.ok r, { t with store }, [.assigned r]⟩
  | .ok none => t.reply (.error (.notFound id))
  | .error e => t.reply (.error (.validation e))

def list (t : Tracker) (p : QueryParameters) : Reply (Except TrackingError PagedRuns) :=
  match QueryPlan.ofParameters t.limits p with
  | .ok plan => ⟨plan.run t.store.toList, t, [.querying plan]⟩
  | .error e => t.reply (.error (.validation e))

end MissionTracking.Tracker
