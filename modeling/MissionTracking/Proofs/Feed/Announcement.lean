import MissionTracking.Proofs.Feed.Replica
import MissionTracking.Proofs.Ingestion.Direct
import MissionTracking.Proofs.Transition.Difference

/-!
What an event announces, against the stores before and after it. The notifications of an event start
from what the first store shows and lead to what the second shows, and there are none exactly when
the two stores are one.
-/
namespace MissionTracking

/-- The notifications that go with the answer to an event. -/
def StatusEvent.announced (e : StatusEvent) : Except TrackingError Outcome → List Notification
  | .ok outcome => outcome.notifications e.externalMissionId
  | .error _ => []

/-- The slot that a report names holds the reported status. -/
def StatusReport.Repeats (r : MissionRun) : StatusReport → Prop
  | .mission status => r.status = status
  | .task t status => ∃ j, r.taskPosition t = some j ∧ r.statusAt (.task j) = some (.task status)
  | .step t s status => ∃ j k, r.stepPosition t s = some (j, k) ∧
      r.statusAt (.step j k) = some (.inspection status)

/-- A task is in progress while its mission is not ongoing. -/
def StatusReport.Recovers (r : MissionRun) : StatusReport → Prop
  | .task _ status => status = .inProgress ∧ r.status ≠ .ongoing
  | _ => False

namespace MissionRun
variable {r changed : MissionRun} {slot : StatusSlot} {cause : ChangeCause} {c : StatusChange}
variable {transition : TransitionReport} {reported reset : List StatusSlot}

theorem HasDistinctIds.withStatuses (distinct : r.HasDistinctIds) (s : Statuses) :
    (r.withStatuses s).HasDistinctIds where
  tasks := by
    rw [map_withStatuses fun t status steps => rfl]
    exact distinct.tasks
  inspections := by
    have unseen (t : MissionTask) (status : TaskStatus) (steps : Nat → InspectionStatus) :
        (t.withStatuses status steps).inspections.map Inspection.id =
        t.inspections.map Inspection.id := by
      apply List.ext_getElem?
      intro k
      rw [List.getElem?_map, List.getElem?_map, MissionTask.withStatuses, List.getElem?_mapIdx,
        Option.map_map]
      rfl
    have same : ((r.withStatuses s).tasks.map fun t => t.inspections.map Inspection.id) =
        r.tasks.map fun t => t.inspections.map Inspection.id := map_withStatuses unseen r s
    have each := distinct.inspections
    rw [← List.forall_mem_map, ← same] at each
    exact List.forall_mem_map.mp each

theorem receive_ok {report : StatusReport}
    (received : r.receive report = .ok (changed, transition)) :
    (∃ status, report = .mission status ∧ r.applyMissionStatus status = (changed, transition)) ∨
    (∃ t status i, report = .task t status ∧ r.findTask? t = some i ∧
      r.applyTaskStatus i status = (changed, transition)) ∨
    ∃ t s status i k, report = .step t s status ∧ r.findTask? t = some i ∧
    (r.tasks.get i).findStep? s = some k ∧
      r.applyStepStatus i k status = (changed, transition) := by
  cases report with
  | mission status => exact .inl ⟨status, rfl, Except.ok.inj received⟩
  | task t status =>
    unfold receive at received
    dsimp only at received
    split at received
    · rename_i i found
      exact .inr (.inl ⟨t, status, i, rfl, found, Except.ok.inj received⟩)
    · cases received
  | step t s status =>
    unfold receive at received
    dsimp only at received
    split at received
    · rename_i i found
      split at received
      · rename_i k step
        exact .inr (.inr ⟨t, s, status, i, k, rfl, found, step, Except.ok.inj received⟩)
      · cases received
    · cases received

theorem receive_differs {report : StatusReport}
    (received : r.receive report = .ok (changed, transition)) :
    changed = r.withStatuses changed.statuses ∧
    ∃ reported reset, r.Differs changed transition reported reset := by
  obtain ⟨status, _, applied⟩ | ⟨_, status, i, _, _, applied⟩ |
      ⟨_, _, status, i, k, _, _, _, applied⟩ :=
    receive_ok received
  · have written := r.applyMissionStatus_written status
    have difference := r.differs_applyMissionStatus status
    rw [applied] at written difference
    exact ⟨written, _, _, difference⟩
  · have written := r.applyTaskStatus_written i status
    have difference := r.differs_applyTaskStatus i status
    rw [applied] at written difference
    exact ⟨written, _, _, difference⟩
  · have written := r.applyStepStatus_written i k status
    have difference := r.differs_applyStepStatus i k status
    rw [applied] at written difference
    exact ⟨written, _, _, difference⟩

theorem text_ne {old new : Status} (held : r.statusAt slot = some old)
    (holds : changed.statusAt slot = some new) (other : old ≠ new) : old.text ≠ new.text := by
  cases slot with
  | mission =>
    cases held
    cases holds
    simpa [Status.text, MissionStatus.text_injective] using other
  | task j =>
    obtain ⟨_, _, rfl⟩ := Option.map_eq_some_iff.mp held
    obtain ⟨_, _, rfl⟩ := Option.map_eq_some_iff.mp holds
    simpa [Status.text, TaskStatus.text_injective] using other
  | step j k =>
    obtain ⟨_, _, rfl⟩ := Option.map_eq_some_iff.mp held
    obtain ⟨_, _, rfl⟩ := Option.map_eq_some_iff.mp holds
    simpa [Status.text, InspectionStatus.text_injective] using other

theorem targetAt_of_entry (entry : r.changeAt changed cause slot = some c) :
    r.targetAt slot = some c.target := by
  simp only [changeAt, Option.bind_eq_bind, Option.bind_eq_some_iff] at entry
  obtain ⟨target, named, old, _, new, _, entry⟩ := entry
  split at entry
  · cases entry
  · cases entry
    exact named

theorem shown_of_entry (distinct : r.HasDistinctIds)
    (written : changed = r.withStatuses changed.statuses)
    (entry : r.changeAt changed cause slot = some c) :
    r.shown c.target = some c.before ∧ changed.shown c.target = some c.after ∧
    c.before ≠ c.after := by
  have differs : r.statusAt slot ≠ changed.statusAt slot := by
    intro same
    cases (changeAt_of_same same).symm.trans entry
  obtain ⟨target, old, new, named, held, holds, other, entry'⟩ :=
    changeAt_of_differs cause written differs
  cases entry.symm.trans entry'
  have distinct' := distinct.withStatuses changed.statuses
  have named' := r.targetAt_withStatuses changed.statuses slot
  rw [← written] at distinct' named'
  refine ⟨?_, ?_, text_ne held holds other⟩
  · rw [distinct.shown_eq named, held, Option.map_some]
  · rw [distinct'.shown_eq (named'.trans named), holds, Option.map_some]

namespace Differs

theorem entry (difference : r.Differs changed transition reported reset)
    (listed : c ∈ transition.changes) : ∃ slot cause, r.changeAt changed cause slot = some c := by
  rw [difference.changes, List.mem_append, List.mem_filterMap, List.mem_filterMap] at listed
  rcases listed with ⟨slot, _, entry⟩ | ⟨slot, _, entry⟩
  · exact ⟨slot, _, entry⟩
  · exact ⟨slot, _, entry⟩

theorem listed (difference : r.Differs changed transition reported reset)
    (written : changed = r.withStatuses changed.statuses)
    (differs : r.statusAt slot ≠ changed.statusAt slot) :
    ∃ c ∈ transition.changes, r.targetAt slot = some c.target := by
  rw [difference.changes]
  rcases List.mem_append.mp (difference.complete slot differs) with member | member
  · obtain ⟨_, _, _, named, _, _, _, entry⟩ := changeAt_of_differs .reported written differs
    exact ⟨_, List.mem_append_left _ (List.mem_filterMap.mpr ⟨slot, member, entry⟩), named⟩
  · obtain ⟨_, _, _, named, _, _, _, entry⟩ := changeAt_of_differs .recoveryReset written differs
    exact ⟨_, List.mem_append_right _ (List.mem_filterMap.mpr ⟨slot, member, entry⟩), named⟩

theorem nodup_targets (difference : r.Differs changed transition reported reset)
    (distinct : r.HasDistinctIds) : (transition.changes.map StatusChange.target).Nodup := by
  have named (slot : StatusSlot) :
      (r.changeAt changed .recoveryReset slot).map StatusChange.target =
      (r.changeAt changed .reported slot).map StatusChange.target := by
    unfold changeAt
    cases r.targetAt slot <;> cases r.statusAt slot <;> cases changed.statusAt slot <;> try rfl
    simp only [Option.bind_eq_bind, Option.bind_some]
    split <;> rfl
  have targets : transition.changes.map StatusChange.target =
      (reported ++ reset).filterMap fun slot =>
        (r.changeAt changed .reported slot).map StatusChange.target := by
    rw [difference.changes, List.map_append, List.map_filterMap, List.map_filterMap,
      List.filterMap_append]
    simp only [named]
  rw [targets]
  apply difference.once.filterMap
  intro slot slot' target first second
  obtain ⟨c, entry, rfl⟩ := Option.map_eq_some_iff.mp first
  obtain ⟨c', entry', same⟩ := Option.map_eq_some_iff.mp second
  have named' := targetAt_of_entry entry'
  rw [same] at named'
  exact distinct.slot_unique (targetAt_of_entry entry) named'

theorem shown_elsewhere (difference : r.Differs changed transition reported reset)
    (distinct : r.HasDistinctIds)
    (written : changed = r.withStatuses changed.statuses) {target : StatusTarget}
    (unnamed : ∀ c ∈ transition.changes, target ≠ c.target) :
    r.shown target = changed.shown target := by
  have distinct' := distinct.withStatuses changed.statuses
  have names := r.targetAt_withStatuses changed.statuses
  rw [← written] at distinct' names
  have agree {slot : StatusSlot} (named : r.targetAt slot = some target) :
      r.shown target = changed.shown target := by
    rw [distinct.shown_eq named, distinct'.shown_eq ((names slot).trans named)]
    congr 1
    by_contra differs
    obtain ⟨c, entry, same⟩ := difference.listed written differs
    exact unnamed c entry (Option.some.inj (named.symm.trans same))
  cases before : r.shown target with
  | some text =>
    obtain ⟨slot, named⟩ := exists_targetAt before
    rw [← before, agree named]
  | none =>
    cases after : changed.shown target with
    | none => rfl
    | some text =>
      obtain ⟨slot, named⟩ := exists_targetAt after
      rw [← before, agree ((names slot).symm.trans named), after]

end Differs

theorem handle_cases (r : MissionRun) (e : StatusEvent) :
    ((r.handle e).1 = r ∧ e.announced (r.handle e).2 = []) ∨
    ∃ report transition, StatusReport.ofEvent e = .ok report ∧
      r.receive report = .ok ((r.handle e).1, transition) ∧
      e.announced (r.handle e).2 = transition.notifications e.externalMissionId := by
  unfold handle
  cases read : StatusReport.ofEvent e with
  | error error => exact .inl ⟨rfl, rfl⟩
  | ok report =>
    cases received : r.receive report with
    | error miss => exact .inl (by simp [received, StatusEvent.announced, Outcome.notifications])
    | ok pair => exact .inr ⟨report, pair.2, rfl,
      by simp [received, StatusEvent.announced, Outcome.notifications]⟩

theorem HasDistinctIds.handle (distinct : r.HasDistinctIds) (e : StatusEvent) :
    (r.handle e).1.HasDistinctIds := by
  rcases r.handle_cases e with ⟨same, _⟩ | ⟨_, _, _, received, _⟩
  · rwa [same]
  · rw [(receive_differs received).1]
    exact distinct.withStatuses _

/-- The notifications of an event lead from a copy that shows the run before it to one that shows
the run after it. -/
theorem HasDistinctIds.announced_follows (distinct : r.HasDistinctIds) (e : StatusEvent)
    {copy last : Replica} (before : copy r.id = r.shown) (after : last r.id = (r.handle e).1.shown)
    (others : ∀ id, id ≠ r.id → copy id = last id) :
    copy.Follows (e.announced (r.handle e).2) ∧
      (e.announced (r.handle e).2).foldl Replica.overwrite copy = last := by
  rcases r.handle_cases e with ⟨same, silent⟩ | ⟨report, transition, _, received, brings⟩
  · rw [silent]
    refine ⟨trivial, ?_⟩
    funext id
    by_cases here : id = r.id
    · rw [here, List.foldl_nil, before, after, same]
    · exact others id here
  · obtain ⟨written, reported, reset, difference⟩ := receive_differs received
    have listed {n : Notification} (member : n ∈ transition.notifications e.externalMissionId) :
        n.change ∈ transition.changes ∧ n.missionRunId = r.id := by
      obtain ⟨c, entry, rfl⟩ := List.mem_map.mp member
      exact ⟨entry, difference.run⟩
    have shown {n : Notification} (member : n ∈ transition.notifications e.externalMissionId) :
        r.shown n.change.target = some n.change.before ∧
        (r.handle e).1.shown n.change.target = some n.change.after ∧
          n.change.before ≠ n.change.after := by
      obtain ⟨slot, cause, entry⟩ := difference.entry (listed member).1
      exact shown_of_entry distinct written entry
    rw [brings]
    apply Replica.follows_of_distinct
    · have targets := (difference.nodup_targets distinct).map
        (f := fun target => (transition.missionRunId, target))
        fun target target' same => (Prod.mk.inj same).2
      rw [TransitionReport.notifications, List.map_map]
      rwa [List.map_map] at targets
    · intro n member
      rw [(listed member).2, before, (shown member).1]
    · intro n member
      rw [(listed member).2, after, (shown member).2.1]
    · intro n member
      exact (shown member).2.2
    · intro id target elsewhere
      by_cases here : id = r.id
      · rw [here, before, after]
        apply difference.shown_elsewhere distinct written
        intro c entry same
        exact elsewhere _ (List.mem_map.mpr ⟨c, entry, rfl⟩) ⟨here.trans difference.run.symm, same⟩
      · rw [others id here]

theorem announced_eq_nil_iff (r : MissionRun) (e : StatusEvent) :
    e.announced (r.handle e).2 = [] ↔ (r.handle e).1 = r := by
  rcases r.handle_cases e with ⟨same, silent⟩ | ⟨report, transition, _, received, brings⟩
  · exact ⟨fun _ => same, fun _ => silent⟩
  · obtain ⟨written, _, _, difference⟩ := receive_differs received
    rw [brings, ← difference.isNoop_iff written, TransitionReport.notifications,
      List.map_eq_nil_iff, TransitionReport.isNoop, List.isEmpty_iff]

theorem announced_of_receive {e : StatusEvent} {report : StatusReport}
    (read : StatusReport.ofEvent e = .ok report)
    (received : r.receive report = .ok (changed, transition)) :
    e.announced (r.handle e).2 = transition.notifications e.externalMissionId := by
  simp only [handle, read, received, StatusEvent.announced, Outcome.notifications]

theorem exists_receive_of_repeats {report : StatusReport} (repeats : report.Repeats r) :
    ∃ changed transition, r.receive report = .ok (changed, transition) := by
  cases report with
  | mission status => exact ⟨_, _, rfl⟩
  | task t status =>
    obtain ⟨j, position, _⟩ := repeats
    rw [← findTask?_position] at position
    obtain ⟨i, found, _⟩ := Option.map_eq_some_iff.mp position
    exact ⟨(r.applyTaskStatus i status).1, (r.applyTaskStatus i status).2,
      by simp only [receive, found]⟩
  | step t s status =>
    obtain ⟨j, l, position, _⟩ := repeats
    rw [stepPosition_eq_find] at position
    obtain ⟨i, found, position⟩ := Option.bind_eq_some_iff.mp position
    obtain ⟨k, step, _⟩ := Option.map_eq_some_iff.mp position
    simp only [List.get_eq_getElem] at step
    exact ⟨(r.applyStepStatus i k status).1, (r.applyStepStatus i k status).2,
      by simp [receive, found, step]⟩

/-- What is stored already changes nothing when it is reported, unless the report is what a mission
recovers by. -/
theorem changes_eq_nil_iff_of_repeats {report : StatusReport}
    (received : r.receive report = .ok (changed, transition)) (repeats : report.Repeats r) :
    transition.changes = [] ↔ ¬ report.Recovers r := by
  obtain ⟨status, rfl, applied⟩ | ⟨t, status, i, rfl, found, applied⟩ |
    ⟨t, s, status, i, k, rfl, found, step, applied⟩ := receive_ok received
  · have same : r.status = status := repeats
    obtain ⟨-, rfl⟩ := Prod.ext_iff.mp applied
    refine iff_of_true ?_ not_false
    rw [applyMissionStatus, same]
    exact if_pos rfl
  · obtain ⟨j, position, held⟩ := repeats
    rw [← findTask?_position, found] at position
    cases position
    have place : r.tasks[i.val]? = some (r.tasks.get i) := List.getElem?_eq_getElem i.isLt
    rw [statusAt, place] at held
    have same : (r.tasks.get i).status = status := Status.task.inj (Option.some.inj held)
    obtain ⟨-, rfl⟩ := Prod.ext_iff.mp applied
    rw [StatusReport.Recovers, ← isRecovery_iff]
    constructor
    · intro silent recovery
      obtain ⟨c, entry, _⟩ := (r.recovery_iff_reset i status).mp recovery
      rw [silent] at entry
      cases entry
    · intro idle
      rw [changes_applyTaskStatus, if_neg idle, List.append_nil, same]
      exact if_pos rfl
  · obtain ⟨j, l, position, held⟩ := repeats
    rw [stepPosition_eq_find, found, Option.bind_some, step] at position
    cases position
    have place : r.tasks[i.val]? = some (r.tasks.get i) := List.getElem?_eq_getElem i.isLt
    have place' : (r.tasks.get i).inspections[k.val]? = some (r.tasks.get i).inspections[k] :=
      List.getElem?_eq_getElem k.isLt
    rw [statusAt, place, Option.bind_some, place'] at held
    have same := Status.inspection.inj (Option.some.inj held)
    obtain ⟨-, rfl⟩ := Prod.ext_iff.mp applied
    exact iff_of_true (if_pos (congrArg InspectionStatus.text same)) not_false

end MissionRun

namespace Store

def shown (s : Store) : Replica := fun id target => (s.find? id).bind (·.shown target)

def HasDistinctIds (s : Store) : Prop := ∀ id r, s.find? id = some r → r.HasDistinctIds

variable {s : Store}

theorem announced_of_unresolved {e : StatusEvent}
    (missing : s.resolve? e.externalMissionId = none) : e.announced (s.receive e).2 = [] := by
  rw [receive_of_unresolved missing, StatusEvent.unclaimed]
  cases StatusReport.ofEvent e <;> rfl

namespace Coherent

theorem hasDistinctIds_receive (h : s.Coherent) (distinct : s.HasDistinctIds) (e : StatusEvent) :
    (s.receive e).1.HasDistinctIds := by
  intro id r found
  rw [h.find?_receive] at found
  obtain ⟨before, stored, heard⟩ := Option.map_eq_some_iff.mp found
  split at heard
  · rw [← heard]
    exact (distinct id before stored).handle e
  · rw [← heard]
    exact distinct id before stored

theorem announced_follows (h : s.Coherent) (distinct : s.HasDistinctIds) (e : StatusEvent) :
    s.shown.Follows (e.announced (s.receive e).2) ∧
      (e.announced (s.receive e).2).foldl Replica.overwrite s.shown = (s.receive e).1.shown := by
  cases resolved : s.resolve? e.externalMissionId with
  | none =>
    rw [announced_of_unresolved resolved, receive_of_unresolved resolved]
    exact ⟨trivial, rfl⟩
  | some pair =>
    obtain ⟨id, r⟩ := pair
    obtain ⟨found, held⟩ := h.resolve?_eq_some_iff.mp resolved
    cases h.keyed found
    rw [receive_answer resolved]
    apply (distinct _ r found).announced_follows
    · funext target
      rw [shown, found, Option.bind_some]
    · funext target
      rw [shown, h.find?_receive, found, Option.map_some, if_pos held, Option.bind_some]
    · intro id other
      funext target
      rw [shown, shown, receive_store h resolved, find?_put, if_neg other.symm]

theorem announced_eq_nil_iff (h : s.Coherent) (e : StatusEvent) :
    e.announced (s.receive e).2 = [] ↔ (s.receive e).1 = s := by
  cases resolved : s.resolve? e.externalMissionId with
  | none =>
    rw [announced_of_unresolved resolved, receive_of_unresolved resolved]
    exact ⟨fun _ => rfl, fun _ => rfl⟩
  | some pair =>
    obtain ⟨id, r⟩ := pair
    have found := resolve?_find resolved
    rw [receive_answer resolved, r.announced_eq_nil_iff, receive_store h resolved]
    constructor
    · intro same
      rw [same, put_stored found]
    · intro same
      have lookup := find?_put s id (r.handle e).1 id
      rw [same, if_pos rfl, found] at lookup
      exact (Option.some.inj lookup).symm

end Coherent

theorem announced_eq_nil_iff_of_repeats {e : StatusEvent} {id : String} {r : MissionRun}
    {report : StatusReport} (resolved : s.resolve? e.externalMissionId = some (id, r))
    (read : StatusReport.ofEvent e = .ok report) (repeats : report.Repeats r) :
    e.announced (s.receive e).2 = [] ↔ ¬ report.Recovers r := by
  obtain ⟨_, _, received⟩ := MissionRun.exists_receive_of_repeats repeats
  rw [receive_answer resolved, MissionRun.announced_of_receive read received,
    TransitionReport.notifications, List.map_eq_nil_iff,
    MissionRun.changes_eq_nil_iff_of_repeats received repeats]

end Store
end MissionTracking
