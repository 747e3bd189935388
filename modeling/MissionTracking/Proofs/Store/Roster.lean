import MissionTracking.Proofs.Store.Calls

/-!
A store without an index: the runs in a list, of which the last that was created is the first. Every
run is found by going through the list, by its id or by the external mission id that it carries.
-/
namespace MissionTracking

structure Roster where
  runs : List MissionRun

namespace Roster

def empty : Roster := ⟨[]⟩

def find? (t : Roster) (id : String) : Option MissionRun := t.runs.find? fun r => r.id == id

def carrier? (t : Roster) (e : String) : Option MissionRun :=
  t.runs.find? fun r => r.externalMissionId == some e

def create (t : Roster) (r : MissionRun) : Except ValidationError Roster :=
  if (t.find? r.id).isSome then .error (.missionRun (.idInUse r.id))
  else
    match r.externalMissionId.filter fun e => (t.carrier? e).isSome with
    | some e => .error (.missionRun (.externalIdInUse e))
    | none => .ok ⟨r :: t.runs⟩

def delete (t : Roster) (id : String) : Option (Roster × MissionRun) :=
  (t.find? id).map fun r => (⟨t.runs.filter fun q => q.id != id⟩, r)

def replace (t : Roster) (id : String) (r : MissionRun) : Roster :=
  ⟨t.runs.map fun q => if q.id = id then r else q⟩

def isTaken (t : Roster) (id e : String) : Bool := (t.carrier? e).any fun r => r.id != id

def assign (t : Roster) (id : String) (a : Assignment) :
    Except ValidationError (Option (Roster × MissionRun)) :=
  match t.find? id with
  | none => .ok none
  | some r => do
    let r ← a.applied r
    match r.externalMissionId.filter (t.isTaken id) with
    | some e => .error (.missionRun (.externalIdInUse e))
    | none => .ok (some (t.replace id r, r))

def mutate (t : Roster) (e : String) (change : MissionRun → Mutation α) :
    Option (Roster × MissionRun × α) :=
  (t.carrier? e).map fun r =>
    match change r with
    | .commit changed answer => (t.replace r.id changed, changed, answer)
    | .discard answer => (t, r, answer)

def page (t : Roster) (q : RunQuery) (window : PageWindow) : QueryPage := q.select t.runs window

def operations : StoreOperations Roster where
  create := create
  find? := find?
  delete := delete
  assign := assign
  mutate := mutate
  page := page

def perform (t : Roster) (c : StoreCall α) : Roster × StoreAnswer α := operations.perform t c

theorem find?_some {t : Roster} {id : String} {r : MissionRun} (found : t.find? id = some r) :
    r ∈ t.runs ∧ r.id = id :=
  ⟨List.mem_of_find?_eq_some found,
    eq_of_beq (List.find?_some (p := fun r : MissionRun => r.id == id) found)⟩

theorem carrier?_some {t : Roster} {e : String} {r : MissionRun} (found : t.carrier? e = some r) :
    r ∈ t.runs ∧ r.externalMissionId = some e :=
  ⟨List.mem_of_find?_eq_some found,
    eq_of_beq (List.find?_some (p := fun r : MissionRun => r.externalMissionId == some e) found)⟩

theorem find?_of_mem {t : Roster} (distinct : (t.runs.map MissionRun.id).Nodup) {r : MissionRun}
    (member : r ∈ t.runs) : t.find? r.id = some r :=
  find?_of_distinct distinct member (beq_self_eq_true r.id) fun _ same => eq_of_beq same

theorem find?_create (t : Roster) (r : MissionRun) (q : String) :
    Roster.find? ⟨r :: t.runs⟩ q = if r.id = q then some r else t.find? q := by
  simp only [find?, List.find?_cons]
  by_cases here : r.id = q
  · simp only [here, beq_self_eq_true, if_true]
  · simp only [beq_eq_false_iff_ne.mpr here, here, if_false]

theorem find?_delete (t : Roster) (id q : String) :
    Roster.find? ⟨t.runs.filter fun r => r.id != id⟩ q = if id = q then none else t.find? q := by
  unfold find?
  rw [List.find?_filter]
  by_cases here : id = q
  · rw [if_pos here, List.find?_eq_none]
    rintro r -
    simp only [here, bne_iff_ne, beq_iff_eq, decide_eq_true_eq, not_and, imp_self, Ne]
  · rw [if_neg here]
    congr 1
    funext r
    by_cases there : r.id = q
    · simp [there, Ne.symm here]
    · simp [there]

theorem find?_replace (t : Roster) {id : String} {r : MissionRun} (keyed : r.id = id) (q : String) :
    (t.replace id r).find? q = if id = q then (t.find? q).map fun _ => r else t.find? q := by
  have place : ((fun p : MissionRun => p.id == q) ∘ fun p => if p.id = id then r else p) =
      fun p => p.id == q := by
    funext p
    simp only [Function.comp_apply]
    split
    · rename_i here
      rw [keyed, here]
    · rfl
  unfold find? replace
  rw [List.find?_map, place]
  cases found : t.runs.find? fun p => p.id == q with
  | none => simp only [Option.map_none, ite_self]
  | some p =>
    have same : p.id = q := (find?_some found).2
    simp only [Option.map_some, same, eq_comm (a := q)]
    split <;> rfl

theorem ids_replace (t : Roster) {id : String} {r : MissionRun} (keyed : r.id = id) :
    (t.replace id r).runs.map MissionRun.id = t.runs.map MissionRun.id := by
  unfold replace
  rw [List.map_map]
  apply List.map_congr_left
  intro q _
  simp only [Function.comp_apply]
  split
  · rename_i here
    rw [keyed, here]
  · rfl

end Roster
end MissionTracking
