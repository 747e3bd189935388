import MissionTracking.Proofs.Refusal
import MissionTracking.Proofs.Slots.Report
import MissionTracking.Run.Assignment
import Mathlib.Data.List.Nodup

/-!
What a run is stored and found under. Reports and assignments leave every id of its own and every
task order of a run as they are, and an external id that a mission, a task or an inspection holds is
never overwritten.
-/
namespace MissionTracking

theorem find?_of_distinct {f : α → β} {p : α → Bool} {as : List α} {a : α}
    (distinct : (as.map f).Nodup)
    (member : a ∈ as) (fits : p a = true) (named : ∀ b, p b = true → f b = f a) :
    as.find? p = some a := by
  cases found : as.find? p with
  | none => exact absurd fits (List.find?_eq_none.mp found a member)
  | some b =>
    have same := named b (List.find?_some found)
    rw [List.inj_on_of_nodup_map distinct (List.mem_of_find?_eq_some found) member same]

theorem forall₂_trans {R : α → α → Prop} (trans : ∀ {a b c}, R a b → R b c → R a c)
    {as bs cs : List α}
    (first : List.Forall₂ R as bs) (second : List.Forall₂ R bs cs) : List.Forall₂ R as cs := by
  induction first generalizing cs with
  | nil => exact second
  | cons head _ ih =>
    cases second with
    | cons head' tail' => exact .cons (trans head head') (ih tail')

theorem forall₂_getElem? {R : α → β → Prop} {as : List α} {bs : List β} (all : List.Forall₂ R as bs)
    {j : Nat} {a : α} (place : as[j]? = some a) : ∃ b, bs[j]? = some b ∧ R a b := by
  induction all generalizing j with
  | nil => simp at place
  | @cons first second _ _ head _ ih =>
    cases j with
    | zero =>
      cases place
      exact ⟨second, rfl, head⟩
    | succ j => exact ih place

theorem forall₂_mapIdx {R : α → β → Prop} {f : Nat → α → β} (each : ∀ j a, R a (f j a))
    (as : List α) : List.Forall₂ R as (as.mapIdx f) := by
  induction as generalizing f with
  | nil => exact .nil
  | cons a as ih =>
    rw [List.mapIdx_cons]
    exact .cons (each 0 a) (ih fun j => each (j + 1))

theorem updateFirst_forall₂ {R : α → α → Prop} {fits : α → Bool} {missing : ε}
    {update : α → Except ε α}
    {as bs : List α} (refl : ∀ a, R a a) (each : ∀ {a b}, update a = .ok b → R a b)
    (done : updateFirst fits missing update as = .ok bs) : List.Forall₂ R as bs := by
  induction as generalizing bs with
  | nil => cases done
  | cons a as ih =>
    unfold updateFirst at done
    split at done
    · obtain ⟨b, updated, rfl⟩ := map_ok_iff.mp done
      exact .cons (each updated) (List.forall₂_same.mpr fun c _ => refl c)
    · obtain ⟨cs, rest, rfl⟩ := map_ok_iff.mp done
      exact .cons (refl a) (ih rest)

structure Inspection.Retains (i changed : Inspection) : Prop where
  id : changed.id = i.id
  held : ∀ {e : String}, i.externalStepId = some e → changed.externalStepId = some e

structure MissionTask.Retains (t changed : MissionTask) : Prop where
  id : changed.id = t.id
  order : changed.taskOrder = t.taskOrder
  held : ∀ {e : String}, t.externalTaskId = some e → changed.externalTaskId = some e
  inspections : List.Forall₂ Inspection.Retains t.inspections changed.inspections

structure MissionRun.Keeps (r changed : MissionRun) : Prop where
  id : changed.id = r.id
  held : ∀ {e : String}, r.externalMissionId = some e → changed.externalMissionId = some e

/-- Nothing that a run is found by is lost: its ids, the orders of its tasks, the external ids that
are set. -/
structure MissionRun.Retains (r changed : MissionRun) : Prop extends r.Keeps changed where
  tasks : List.Forall₂ MissionTask.Retains r.tasks changed.tasks

namespace Inspection

theorem Retains.refl (i : Inspection) : i.Retains i := ⟨rfl, fun held => held⟩

theorem Retains.trans {i changed last : Inspection} (first : i.Retains changed)
    (second : changed.Retains last) : i.Retains last :=
  ⟨second.id.trans first.id, fun held => second.held (first.held held)⟩

end Inspection

namespace MissionTask

theorem Retains.refl (t : MissionTask) : t.Retains t :=
  ⟨rfl, rfl, fun held => held, List.forall₂_same.mpr fun i _ => .refl i⟩

theorem Retains.trans {t changed last : MissionTask} (first : t.Retains changed)
    (second : changed.Retains last) : t.Retains last where
  id := second.id.trans first.id
  order := second.order.trans first.order
  held held := second.held (first.held held)
  inspections :=
    forall₂_trans (fun first second => first.trans second) first.inspections second.inspections

theorem withStatuses_retains (t : MissionTask) (status : TaskStatus)
    (steps : Nat → InspectionStatus) : t.Retains (t.withStatuses status steps) :=
  ⟨rfl, rfl, fun held => held, forall₂_mapIdx (fun _ _ => ⟨rfl, fun held => held⟩) t.inspections⟩

end MissionTask

namespace MissionRun

def plain (id : String) : MissionRun :=
  .fresh id "Deck scan" "JSV" ⟨"robot", "Taro", .taroN⟩ ⟨0, 0, by decide, by decide, by decide⟩

variable {r changed : MissionRun}

theorem Keeps.refl (r : MissionRun) : r.Keeps r := ⟨rfl, fun held => held⟩

theorem Keeps.trans {last : MissionRun} (first : r.Keeps changed) (second : changed.Keeps last) :
    r.Keeps last :=
  ⟨second.id.trans first.id, fun held => second.held (first.held held)⟩

theorem Retains.refl (r : MissionRun) : r.Retains r :=
  ⟨.refl r, List.forall₂_same.mpr fun t _ => .refl t⟩

theorem Retains.trans {last : MissionRun} (first : r.Retains changed)
    (second : changed.Retains last) : r.Retains last where
  toKeeps := first.toKeeps.trans second.toKeeps
  tasks := forall₂_trans (fun first second => first.trans second) first.tasks second.tasks

theorem Retains.orders (kept : r.Retains changed) :
    changed.tasks.map MissionTask.taskOrder = r.tasks.map MissionTask.taskOrder := by
  have same : List.Forall₂ (· = ·) (r.tasks.map MissionTask.taskOrder)
    (changed.tasks.map MissionTask.taskOrder) := by
    rw [List.forall₂_map_left_iff, List.forall₂_map_right_iff]
    exact kept.tasks.imp fun _ _ task => task.order.symm
  rw [List.forall₂_eq_eq_eq] at same
  exact same.symm

theorem after_of_receive {report : StatusReport} {transition : TransitionReport}
    (received : r.receive report = .ok (changed, transition)) : r.after report = changed := by
  simp only [after, received]

theorem after_id (r : MissionRun) (report : StatusReport) : (r.after report).id = r.id := by
  rw [after_eq_withStatuses]
  rfl

theorem after_externalMissionId (r : MissionRun) (report : StatusReport) :
    (r.after report).externalMissionId = r.externalMissionId := by
  rw [after_eq_withStatuses]
  rfl

theorem withStatuses_retains (r : MissionRun) (s : Statuses) : r.Retains (r.withStatuses s) :=
  ⟨⟨rfl, fun held => held⟩, forall₂_mapIdx (fun _ t => t.withStatuses_retains _ _) r.tasks⟩

theorem after_retains (r : MissionRun) (report : StatusReport) : r.Retains (r.after report) := by
  rw [after_eq_withStatuses]
  exact r.withStatuses_retains _

end MissionRun

theorem assignOnce_held {entity : Entity} {slot written : Option String} {requested e : String}
    (done : assignOnce entity slot requested = .ok written) (held : slot = some e) :
    written = some e := by
  subst held
  unfold assignOnce at done
  dsimp only at done
  split at done
  · exact (Except.ok.inj done).symm
  · cases done

theorem Inspection.assign_retains {i changed : Inspection} {id : String}
    (done : i.assign id = .ok changed) : i.Retains changed := by
  obtain ⟨slot, written, rfl⟩ := map_ok_iff.mp done
  exact ⟨rfl, assignOnce_held written⟩

namespace MissionTask
variable {t changed : MissionTask}

theorem assign_retains {id : Option String} (done : t.assign id = .ok changed) :
    t.Retains changed := by
  cases id with
  | none =>
    cases done
    exact .refl t
  | some id =>
    obtain ⟨slot, written, rfl⟩ := map_ok_iff.mp done
    exact ⟨rfl, rfl, assignOnce_held written, List.forall₂_same.mpr fun i _ => .refl i⟩

theorem assignStep_retains {step : StepId} (done : t.assignStep step = .ok changed) :
    t.Retains changed := by
  obtain ⟨inspections, written, rfl⟩ := map_ok_iff.mp done
  exact ⟨rfl, rfl, fun held => held, updateFirst_forall₂ .refl Inspection.assign_retains written⟩

end MissionTask

namespace MissionRun
variable {r changed : MissionRun}

theorem updateTask_retains {order : UInt32}
    {update : MissionTask → Except ValidationError MissionTask}
    (each : ∀ {t changed}, update t = .ok changed → t.Retains changed)
    (done : r.updateTask order update = .ok changed) : r.Retains changed := by
  obtain ⟨tasks, written, rfl⟩ := map_ok_iff.mp done
  exact ⟨⟨rfl, fun held => held⟩, updateFirst_forall₂ .refl each written⟩

theorem write_retains {w : IdWrite} (done : r.write w = .ok changed) : r.Retains changed := by
  cases w with
  | mission id =>
    obtain ⟨slot, written, rfl⟩ := map_ok_iff.mp done
    exact ⟨⟨rfl, assignOnce_held written⟩, List.forall₂_same.mpr fun t _ => .refl t⟩
  | task order id => exact updateTask_retains MissionTask.assign_retains done
  | step order step => exact updateTask_retains MissionTask.assignStep_retains done

theorem writeAll_retains (r : MissionRun) (ws : List IdWrite) : r.Retains (r.writeAll ws).1 := by
  induction ws generalizing r with
  | nil => exact .refl r
  | cons w ws ih =>
    unfold writeAll
    cases done : r.write w with
    | error fault => exact .refl r
    | ok changed => exact (write_retains done).trans (ih changed)

end MissionRun

namespace Assignment
variable {a : Assignment} {r changed : MissionRun}

theorem apply_ok_iff :
    a.apply r = (changed, .ok ()) ↔
      r.writeAll a.writes = (changed, .ok ()) ∧ changed.checkExternalIds = .ok () := by
  unfold apply
  rcases r.writeAll a.writes with ⟨last, fault | _⟩
  · simp
  · simp only [Prod.mk.injEq, and_true]
    constructor
    · rintro ⟨rfl, checked⟩
      exact ⟨rfl, checked⟩
    · rintro ⟨rfl, checked⟩
      exact ⟨rfl, checked⟩

theorem applied_ok_iff : a.applied r = .ok changed ↔ a.apply r = (changed, .ok ()) := by
  unfold applied
  rcases a.apply r with ⟨last, fault | _⟩
  · simp
  · simp

theorem applied_ok (done : a.applied r = .ok changed) :
    r.writeAll a.writes = (changed, .ok ()) ∧ changed.checkExternalIds = .ok () :=
  apply_ok_iff.mp (applied_ok_iff.mp done)

theorem applied_retains (done : a.applied r = .ok changed) : r.Retains changed := by
  have kept := r.writeAll_retains a.writes
  rwa [(applied_ok done).1] at kept

theorem applied_keeps (done : a.applied r = .ok changed) : r.Keeps changed :=
  (applied_retains done).toKeeps

end Assignment
end MissionTracking
