import MissionTracking.Proofs.Ingestion.Direct
import MissionTracking.Proofs.Transition.Difference

/-!
A copy of the stored statuses that is kept by notifications alone. Each notification names a slot by
ids and says what the slot holds from then on. When the ids of a run are distinct they lead to one
slot, and the notifications of an event take a copy of the store before the event to a copy of the
store after it.
-/
namespace MissionTracking

/-- The text of the status in each slot, by the id of the run and the target that names the slot. -/
abbrev Replica := String → StatusTarget → Option String

namespace Replica

def overwrite (copy : Replica) (n : Notification) : Replica := fun id target =>
  if id = n.missionRunId ∧ target = n.change.target then some n.change.after else copy id target

/-- Each notification starts from what the copy holds at that moment, and brings something else. -/
def Follows : Replica → List Notification → Prop
  | _, [] => True
  | copy, n :: ns =>
    copy n.missionRunId n.change.target = some n.change.before ∧ n.change.before ≠ n.change.after ∧
      Follows (copy.overwrite n) ns

theorem follows_of_distinct {copy last : Replica} {ns : List Notification}
    (slots : (ns.map fun n => (n.missionRunId, n.change.target)).Nodup)
    (before : ∀ n ∈ ns, copy n.missionRunId n.change.target = some n.change.before)
    (after : ∀ n ∈ ns, last n.missionRunId n.change.target = some n.change.after)
    (differ : ∀ n ∈ ns, n.change.before ≠ n.change.after)
    (complete : ∀ id target, (∀ n ∈ ns, ¬ (id = n.missionRunId ∧ target = n.change.target)) →
      copy id target = last id target) :
    copy.Follows ns ∧ ns.foldl overwrite copy = last := by
  induction ns generalizing copy with
  | nil =>
    refine ⟨trivial, ?_⟩
    funext id target
    exact complete id target (by simp)
  | cons n ns ih =>
    rw [List.map_cons, List.nodup_cons] at slots
    rw [List.forall_mem_cons] at before after differ
    have later :
        ∀ n' ∈ ns, ¬ (n'.missionRunId = n.missionRunId ∧ n'.change.target = n.change.target) := by
      rintro n' member ⟨sameRun, sameTarget⟩
      exact slots.1 (List.mem_map.mpr ⟨n', member, by rw [sameRun, sameTarget]⟩)
    have rest := @ih (copy.overwrite n) slots.2 ?_ after.2 differ.2 ?_
    · exact ⟨⟨before.1, differ.1, rest.1⟩, rest.2⟩
    · intro n' member
      rw [overwrite, if_neg (later n' member)]
      exact before.2 n' member
    · intro id target elsewhere
      rw [overwrite]
      split
      · rename_i here
        rw [here.1, here.2, after.1]
      · rename_i other
        exact complete id target (List.forall_mem_cons.mpr ⟨other, elsewhere⟩)

end Replica

namespace MissionRun

structure HasDistinctIds (r : MissionRun) : Prop where
  tasks : (r.tasks.map MissionTask.id).Nodup
  inspections : ∀ t ∈ r.tasks, (t.inspections.map Inspection.id).Nodup

/-- The text of the status that a target names. -/
def shown (r : MissionRun) : StatusTarget → Option String
  | .mission => some r.status.text
  | .task id order =>
    (r.tasks.find? fun t => t.id == id && t.taskOrder == order).map fun t => t.status.text
  | .inspection taskId id => (r.tasks.find? fun t => t.id == taskId).bind fun t =>
    (t.inspections.find? fun i => i.id == id).map fun i => i.status.text

variable {r changed : MissionRun} {slot slot' : StatusSlot} {target : StatusTarget}

/-- What a slot has a name for is in the slot: in a run with distinct ids the search by a name ends
there. -/
theorem HasDistinctIds.shown_eq (distinct : r.HasDistinctIds)
    (named : r.targetAt slot = some target) :
    r.shown target = (r.statusAt slot).map Status.text := by
  cases slot with
  | mission =>
    cases named
    rfl
  | task j =>
    obtain ⟨t, place, rfl⟩ := Option.map_eq_some_iff.mp named
    have found :=
      find?_of_distinct (p := fun u : MissionTask => u.id == t.id && u.taskOrder == t.taskOrder)
      distinct.tasks (List.mem_of_getElem? place) (by simp) (by simp; tauto)
    rw [shown, found, statusAt, place]
    rfl
  | step j k =>
    obtain ⟨t, place, named⟩ := Option.bind_eq_some_iff.mp named
    obtain ⟨i, step, rfl⟩ := Option.map_eq_some_iff.mp named
    have found := find?_of_distinct (p := fun u : MissionTask => u.id == t.id) distinct.tasks
      (List.mem_of_getElem? place) (by simp) (by simp)
    have found' := find?_of_distinct (p := fun u : Inspection => u.id == i.id)
      (distinct.inspections t (List.mem_of_getElem? place)) (List.mem_of_getElem? step)
        (by simp) (by simp)
    rw [shown, found, Option.bind_some, found', statusAt, place, Option.bind_some, step]
    rfl

theorem HasDistinctIds.slot_unique (distinct : r.HasDistinctIds)
    (named : r.targetAt slot = some target)
    (named' : r.targetAt slot' = some target) : slot = slot' := by
  cases slot with
  | mission =>
    cases named
    cases slot' with
    | mission => rfl
    | task j => simp [targetAt] at named'
    | step j k => simp [targetAt, Option.bind_eq_some_iff] at named'
  | task j =>
    obtain ⟨t, place, rfl⟩ := Option.map_eq_some_iff.mp named
    cases slot' with
    | mission => cases named'
    | task j' =>
      obtain ⟨t', place', same⟩ := Option.map_eq_some_iff.mp named'
      have ids := (StatusTarget.task.inj same).1
      rw [place_unique_of_map distinct.tasks place place' ids.symm]
    | step j' k' => simp [targetAt, Option.bind_eq_some_iff] at named'
  | step j k =>
    obtain ⟨t, place, named⟩ := Option.bind_eq_some_iff.mp named
    obtain ⟨i, step, rfl⟩ := Option.map_eq_some_iff.mp named
    cases slot' with
    | mission => cases named'
    | task j' => simp [targetAt] at named'
    | step j' k' =>
      obtain ⟨t', place', named'⟩ := Option.bind_eq_some_iff.mp named'
      obtain ⟨i', step', same⟩ := Option.map_eq_some_iff.mp named'
      obtain ⟨taskIds, ids⟩ := StatusTarget.inspection.inj same
      cases place_unique_of_map distinct.tasks place place' taskIds.symm
      cases place.symm.trans place'
      rw [place_unique_of_map (distinct.inspections t (List.mem_of_getElem? place)) step
        step' ids.symm]

theorem exists_targetAt {text : String} (shows : r.shown target = some text) :
    ∃ slot, r.targetAt slot = some target := by
  cases target with
  | mission => exact ⟨.mission, rfl⟩
  | task id order =>
    obtain ⟨t, found, _⟩ := Option.map_eq_some_iff.mp shows
    obtain ⟨j, place⟩ := List.getElem?_of_mem (List.mem_of_find?_eq_some found)
    have fits := List.find?_some found
    simp only [Bool.and_eq_true, beq_iff_eq] at fits
    exact ⟨.task j, by rw [targetAt, place, Option.map_some, fits.1, fits.2]⟩
  | inspection taskId id =>
    obtain ⟨t, found, shows⟩ := Option.bind_eq_some_iff.mp shows
    obtain ⟨i, found', _⟩ := Option.map_eq_some_iff.mp shows
    obtain ⟨j, place⟩ := List.getElem?_of_mem (List.mem_of_find?_eq_some found)
    obtain ⟨k, step⟩ := List.getElem?_of_mem (List.mem_of_find?_eq_some found')
    have fits := List.find?_some found
    have fits' := List.find?_some found'
    simp only [beq_iff_eq] at fits fits'
    exact ⟨.step j k, by rw [targetAt, place, Option.bind_some, step, Option.map_some, fits, fits']⟩

end MissionRun
end MissionTracking
