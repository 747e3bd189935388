import MissionTracking.Run.Assignment
import MissionTracking.Query.Selection
import Std.Data.ExtTreeMap

/-!
The stored runs. A record is found by the id it was stored under; the index leads from an external
mission id to such an id. Every operation answers and returns the next store, and one that is
refused returns none.
-/
namespace MissionTracking

structure Store where
  runs : Std.ExtTreeMap String MissionRun compare
  /-- From external mission ids to the ids of runs. -/
  index : Std.ExtTreeMap String String compare

/-- What a change to a stored run decides: to keep the changed run, or to leave the store as it
was. -/
inductive Mutation (α : Type) where
  | commit (run : MissionRun) (answer : α)
  | discard (answer : α)

namespace Store

def empty : Store := ⟨∅, ∅⟩

def toList (s : Store) : List MissionRun := s.runs.values

def size (s : Store) : Nat := s.runs.size

def find? (s : Store) (id : String) : Option MissionRun := s.runs[id]?

def indexRun (s : Store) (r : MissionRun) : Store :=
  match r.externalMissionId with
  | some e => { s with index := s.index.insert e r.id }
  | none => s

def unindexRun (s : Store) (r : MissionRun) : Store :=
  match r.externalMissionId with
  | some e => { s with index := s.index.erase e }
  | none => s

def put (s : Store) (id : String) (r : MissionRun) : Store := { s with runs := s.runs.insert id r }

def create (s : Store) (r : MissionRun) : Except ValidationError Store :=
  if r.id ∈ s.runs then .error (.missionRun (.idInUse r.id))
  else
    match r.externalMissionId.filter fun e => decide (e ∈ s.index) with
    | some e => .error (.missionRun (.externalIdInUse e))
    | none => .ok ((s.indexRun r).put r.id r)

def delete (s : Store) (id : String) : Option (Store × MissionRun) :=
  (s.find? id).map fun r => ({ s with runs := s.runs.erase id }.unindexRun r, r)

def resolve? (s : Store) (externalId : String) : Option (String × MissionRun) := do
  let id ← s.index[externalId]?
  let r ← s.find? id
  some (id, r)

/-- Changes the run that an external mission id leads to. The answer comes with the run as it is
stored afterwards. -/
def mutate (s : Store) (externalId : String) (change : MissionRun → Mutation α) :
    Option (Store × MissionRun × α) :=
  (s.resolve? externalId).map fun (id, r) =>
    match change r with
    | .commit changed answer =>
      (((s.unindexRun changed).indexRun changed).put id changed, changed, answer)
    | .discard answer => (s, r, answer)

def isTaken (s : Store) (id externalId : String) : Bool := s.index[externalId]?.any (· != id)

/-- Assigns external ids to a run, all of them or none. No run has the id when there is no
answer. -/
def assign (s : Store) (id : String) (a : Assignment) :
    Except ValidationError (Option (Store × MissionRun)) :=
  match s.find? id with
  | none => .ok none
  | some r => do
    let r ← a.applied r
    match r.externalMissionId.filter (s.isTaken id) with
    | some e => .error (.missionRun (.externalIdInUse e))
    | none => .ok (some ((s.indexRun r).put id r, r))

def page (s : Store) (q : RunQuery) (window : PageWindow) : QueryPage := q.select s.toList window

end Store
end MissionTracking
