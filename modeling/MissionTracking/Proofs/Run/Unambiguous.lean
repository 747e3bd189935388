import MissionTracking.Proofs.Run.Identity
import Mathlib.Data.List.Nodup
import Mathlib.Data.Option.Basic

/-!
Runs in which an external id names one task or one inspection, and the order of a task tells its
position. The checks of a new run and of an assignment find a fault exactly when this fails, reports
do not touch it, and in such a run the first task or step that carries an id is the only one.
-/
namespace MissionTracking

structure MissionRun.Unambiguous (r : MissionRun) : Prop where
  ordered : r.tasks.Pairwise fun a b => a.taskOrder < b.taskOrder
  taskIds : r.taskIds.Nodup
  stepIds : ∀ t ∈ r.tasks, t.stepIds.Nodup

theorem firstRepeated_eq_none_iff {seen as : List String} :
    firstRepeated seen as = none ↔ as.Nodup ∧ ∀ a ∈ as, a ∉ seen := by
  induction as generalizing seen with
  | nil => simp [firstRepeated]
  | cons a as ih =>
    unfold firstRepeated
    by_cases repeated : a ∈ seen
    · simp [repeated]
    · rw [if_neg repeated, ih]
      simp only [List.nodup_cons, List.mem_cons, forall_eq_or_imp, not_or]
      constructor
      · rintro ⟨distinct, fresh⟩
        exact ⟨⟨fun member => (fresh a member).1 rfl, distinct⟩, repeated,
          fun b member => (fresh b member).2⟩
      · rintro ⟨⟨absent, distinct⟩, _, fresh⟩
        exact ⟨distinct, fun b member => ⟨fun same => absent (same ▸ member), fresh b member⟩⟩

namespace MissionRun

theorem orderFault_eq_none_iff {ts : List MissionTask} :
    orderFault ts = none ↔ ts.Pairwise fun a b => a.taskOrder < b.taskOrder := by
  have trans : Trans (fun a b : MissionTask => a.taskOrder < b.taskOrder)
      (fun a b : MissionTask => a.taskOrder < b.taskOrder)
        (fun a b : MissionTask => a.taskOrder < b.taskOrder) :=
    ⟨fun first second => UInt32.lt_trans first second⟩
  rw [← List.isChain_iff_pairwise]
  induction ts with
  | nil => simp [orderFault]
  | cons a ts ih =>
    cases ts with
    | nil => simp [orderFault]
    | cons b ts =>
      rw [List.isChain_cons_cons]
      unfold orderFault
      split
      · rename_i fault
        simp [UInt32.not_lt.mpr fault]
      · rename_i increases
        exact ih.trans ⟨fun rest => ⟨UInt32.not_le.mp increases, rest⟩, And.right⟩

theorem externalIdFault_eq_none_iff {seen : List String} {ts : List MissionTask} :
    externalIdFault seen ts = none ↔
      (ts.filterMap MissionTask.externalTaskId).Nodup ∧
      (∀ e ∈ ts.filterMap MissionTask.externalTaskId, e ∉ seen) ∧ ∀ t ∈ ts, t.stepIds.Nodup := by
  induction ts generalizing seen with
  | nil => simp [externalIdFault]
  | cons t ts ih =>
    have steps : firstRepeated [] t.stepIds = none ↔ t.stepIds.Nodup := by
      simp [firstRepeated_eq_none_iff]
    unfold externalIdFault
    cases id : t.externalTaskId with
    | none =>
      simp only [Option.bind_none, Option.toList_none, List.nil_append, List.filterMap_cons, id,
        List.forall_mem_cons]
      cases found : firstRepeated [] t.stepIds with
      | some e => simp [← steps, found]
      | none => simp [← steps, found, ih]
    | some e =>
      simp only [Option.bind_some, Option.toList_some, List.filterMap_cons, id,
        List.forall_mem_cons]
      by_cases repeated : e ∈ seen
      · simp [repeated]
      · simp only [repeated, if_false, not_false_eq_true, true_and]
        cases found : firstRepeated [] t.stepIds with
        | some d => simp [← steps, found]
        | none =>
          simp only [← steps, found, true_and, ih, List.nodup_cons, List.singleton_append,
            List.mem_cons, not_or]
          constructor
          · rintro ⟨distinct, fresh, later⟩
            exact ⟨⟨fun member => (fresh e member).1 rfl, distinct⟩,
              fun d member => (fresh d member).2, later⟩
          · rintro ⟨⟨absent, distinct⟩, fresh, later⟩
            exact ⟨distinct, fun d member => ⟨fun same => absent (same ▸ member), fresh d member⟩,
              later⟩

theorem unambiguous_iff {r : MissionRun} :
    r.Unambiguous ↔ orderFault r.tasks = none ∧ externalIdFault [] r.tasks = none := by
  rw [orderFault_eq_none_iff, externalIdFault_eq_none_iff]
  constructor
  · intro h
    exact ⟨h.ordered, h.taskIds, fun e _ => List.not_mem_nil, h.stepIds⟩
  · rintro ⟨ordered, taskIds, _, stepIds⟩
    exact ⟨ordered, taskIds, stepIds⟩

variable {r changed : MissionRun}

theorem validate_ok : r.validate = .ok () ↔ r.fault? = none := by
  unfold validate
  cases r.fault? <;> simp

theorem unambiguous_of_validate (valid : r.validate = .ok ()) : r.Unambiguous := by
  have sound := validate_ok.mp valid
  simp only [fault?, Option.orElse_eq_none] at sound
  obtain ⟨_, _, _, _, _, _, ordered, _, distinct⟩ := sound
  exact unambiguous_iff.mpr ⟨ordered, distinct⟩

theorem checkExternalIds_ok : r.checkExternalIds = .ok () ↔ externalIdFault [] r.tasks = none := by
  unfold checkExternalIds
  cases externalIdFault [] r.tasks <;> simp

theorem Unambiguous.applied (h : r.Unambiguous) {a : Assignment}
    (done : a.applied r = .ok changed) : changed.Unambiguous := by
  have orders := (Assignment.applied_retains done).orders
  have ordered : (r.tasks.map MissionTask.taskOrder).Pairwise (· < ·) :=
    List.pairwise_map.mpr h.ordered
  rw [← orders, List.pairwise_map] at ordered
  exact unambiguous_iff.mpr ⟨orderFault_eq_none_iff.mpr ordered,
    checkExternalIds_ok.mp (Assignment.applied_ok done).2⟩

theorem filterMap_eq_of_map_eq {f : α → Option β} {as bs : List α} (same : as.map f = bs.map f) :
    as.filterMap f = bs.filterMap f := by
  have values := congrArg (List.filterMap fun b => b) same
  simpa only [List.filterMap_map, Function.comp_def] using values

theorem stepIds_withStatuses (t : MissionTask) (status : TaskStatus)
    (steps : Nat → InspectionStatus) : (t.withStatuses status steps).stepIds = t.stepIds := by
  apply filterMap_eq_of_map_eq
  apply List.ext_getElem?
  intro k
  rw [List.getElem?_map, List.getElem?_map, MissionTask.withStatuses, List.getElem?_mapIdx,
    Option.map_map]
  rfl

theorem map_withStatuses {view : MissionTask → β}
    (unseen : ∀ (t : MissionTask) status steps, view (t.withStatuses status steps) = view t)
    (r : MissionRun) (s : Statuses) : (r.withStatuses s).tasks.map view = r.tasks.map view := by
  apply List.ext_getElem?
  intro j
  rw [List.getElem?_map, List.getElem?_map, getElem?_withStatuses, Option.map_map]
  congr 1
  funext t
  exact unseen t _ _

theorem Unambiguous.withStatuses (h : r.Unambiguous) (s : Statuses) :
    (r.withStatuses s).Unambiguous where
  ordered := by
    have ordered : (r.tasks.map MissionTask.taskOrder).Pairwise (· < ·) :=
      List.pairwise_map.mpr h.ordered
    rw [← map_withStatuses (fun _ _ _ => rfl) r s] at ordered
    exact List.pairwise_map.mp ordered
  taskIds := by
    have same : (r.withStatuses s).taskIds = r.taskIds :=
      filterMap_eq_of_map_eq (map_withStatuses (fun _ _ _ => rfl) r s)
    rw [same]
    exact h.taskIds
  stepIds t member := by
    have distinct : ∀ ids ∈ r.tasks.map MissionTask.stepIds, ids.Nodup := by
      intro ids listed
      obtain ⟨task, stored, rfl⟩ := List.mem_map.mp listed
      exact h.stepIds task stored
    rw [← map_withStatuses stepIds_withStatuses r s] at distinct
    exact distinct _ (List.mem_map_of_mem member)

theorem Unambiguous.after (h : r.Unambiguous) (report : StatusReport) :
    (r.after report).Unambiguous := by
  rw [after_eq_withStatuses]
  exact h.withStatuses _

theorem place_unique {f : α → Option β} {as : List α} (distinct : (as.filterMap f).Nodup)
    {j k : Nat} {a c : α} {b : β}
    (first : as[j]? = some a) (second : as[k]? = some c) (gives : f a = some b)
    (gives' : f c = some b) : j = k := by
  rw [List.Nodup, List.pairwise_filterMap, List.pairwise_iff_getElem] at distinct
  obtain ⟨hj, rfl⟩ := List.getElem?_eq_some_iff.mp first
  obtain ⟨hk, rfl⟩ := List.getElem?_eq_some_iff.mp second
  rcases Nat.lt_trichotomy j k with before | same | behind
  · exact absurd rfl (distinct j k hj hk before b gives b gives')
  · exact same
  · exact absurd rfl (distinct k j hk hj behind b gives' b gives)

theorem place_unique_of_map {f : α → β} {as : List α} (distinct : (as.map f).Nodup)
    {j k : Nat} {a c : α}
    (first : as[j]? = some a) (second : as[k]? = some c) (same : f a = f c) : j = k := by
  rw [← List.filterMap_eq_map] at distinct
  exact place_unique distinct first second rfl (congrArg some same.symm)

theorem findFinIdx?_of_distinct {f : α → Option String} {as : List α}
    (distinct : (as.filterMap f).Nodup) {j : Nat}
    {a : α} {e : String} (place : as[j]? = some a) (gives : f a = some e) :
    ∃ i : Fin as.length, i.val = j ∧ as.findFinIdx? (fun a => f a == some e) = some i := by
  obtain ⟨inside, value⟩ := List.getElem?_eq_some_iff.mp place
  refine ⟨⟨j, inside⟩, rfl, List.findFinIdx?_eq_some_iff.mpr ⟨?_, ?_⟩⟩
  · simp only [Fin.getElem_fin, value, gives, beq_self_eq_true]
  · intro k earlier gives'
    have same :=
      place_unique distinct place (List.getElem?_eq_getElem k.isLt) gives (eq_of_beq gives')
    exact absurd earlier (by simp [same])

end MissionRun

/-- Where a run holds an external id: for itself, for the task or for the inspection at a
position. -/
inductive IdSlot where
  | mission
  | task (j : Nat)
  | step (j k : Nat)
deriving DecidableEq, Repr

namespace MissionRun

def externalIdAt (r : MissionRun) : IdSlot → Option String
  | .mission => r.externalMissionId
  | .task j => r.tasks[j]?.bind MissionTask.externalTaskId
  | .step j k => (r.tasks[j]?.bind fun t => t.inspections[k]?).bind Inspection.externalStepId

variable {r changed : MissionRun}

theorem Retains.slot (kept : r.Retains changed) {slot : IdSlot} {e : String}
    (held : r.externalIdAt slot = some e) : changed.externalIdAt slot = some e := by
  cases slot with
  | mission => exact kept.held held
  | task j =>
    obtain ⟨t, place, id⟩ := Option.bind_eq_some_iff.mp held
    obtain ⟨t', place', task⟩ := forall₂_getElem? kept.tasks place
    exact Option.bind_eq_some_iff.mpr ⟨t', place', task.held id⟩
  | step j k =>
    obtain ⟨i, found, id⟩ := Option.bind_eq_some_iff.mp held
    obtain ⟨t, place, step⟩ := Option.bind_eq_some_iff.mp found
    obtain ⟨t', place', task⟩ := forall₂_getElem? kept.tasks place
    obtain ⟨i', step', inspection⟩ := forall₂_getElem? task.inspections step
    exact Option.bind_eq_some_iff.mpr ⟨i', Option.bind_eq_some_iff.mpr ⟨t', place', step'⟩,
      inspection.held id⟩

namespace Unambiguous

theorem findTask?_of_held (h : r.Unambiguous) {j : Nat} {e : String}
    (held : r.externalIdAt (.task j) = some e) : ∃ i, i.val = j ∧ r.findTask? e = some i := by
  obtain ⟨t, place, id⟩ := Option.bind_eq_some_iff.mp held
  exact findFinIdx?_of_distinct h.taskIds place id

theorem findStep?_of_held (h : r.Unambiguous) {i : Fin r.tasks.length} {k : Nat} {e : String}
    (held : r.externalIdAt (.step i k) = some e) :
    ∃ l : Fin (r.tasks.get i).inspections.length, l.val = k ∧
    (r.tasks.get i).findStep? e = some l := by
  obtain ⟨inspection, found, id⟩ := Option.bind_eq_some_iff.mp held
  obtain ⟨t, place, step⟩ := Option.bind_eq_some_iff.mp found
  cases Option.some.inj ((List.getElem?_eq_getElem i.isLt).symm.trans place)
  exact findFinIdx?_of_distinct (h.stepIds _ (List.getElem_mem i.isLt)) step id

theorem task_unique (h : r.Unambiguous) {j k : Nat} {e : String}
    (first : r.externalIdAt (.task j) = some e)
    (second : r.externalIdAt (.task k) = some e) : j = k := by
  obtain ⟨i, rfl, found⟩ := h.findTask?_of_held first
  obtain ⟨i', rfl, found'⟩ := h.findTask?_of_held second
  cases found.symm.trans found'
  rfl

theorem step_unique (h : r.Unambiguous) {j k l : Nat} {e : String}
    (first : r.externalIdAt (.step j k) = some e)
    (second : r.externalIdAt (.step j l) = some e) : k = l := by
  obtain ⟨_, step, _⟩ := Option.bind_eq_some_iff.mp first
  obtain ⟨_, place, _⟩ := Option.bind_eq_some_iff.mp step
  obtain ⟨inside, _⟩ := List.getElem?_eq_some_iff.mp place
  obtain ⟨a, here, found⟩ := h.findStep?_of_held (i := ⟨j, inside⟩) first
  obtain ⟨b, there, found'⟩ := h.findStep?_of_held (i := ⟨j, inside⟩) second
  rw [← here, ← there, Option.some.inj (found.symm.trans found')]

theorem order_lt_iff (h : r.Unambiguous) {i j : Nat} {a b : MissionTask} (ha : r.tasks[i]? = some a)
    (hb : r.tasks[j]? = some b) : a.taskOrder < b.taskOrder ↔ i < j := by
  have increasing := List.pairwise_iff_getElem.mp h.ordered
  obtain ⟨hi, rfl⟩ := List.getElem?_eq_some_iff.mp ha
  obtain ⟨hj, rfl⟩ := List.getElem?_eq_some_iff.mp hb
  constructor
  · intro less
    by_contra notBefore
    rcases Nat.lt_or_eq_of_le (Nat.le_of_not_lt notBefore) with behind | same
    · exact UInt32.lt_asymm less (increasing j i hj hi behind)
    · subst same
      exact UInt32.lt_irrefl _ less
  · exact increasing i j hi hj

/-- A task in progress under a mission that is not ongoing starts over what lies behind it, and
nothing else. -/
theorem getElem?_recovery (h : r.Unambiguous) (i : Fin r.tasks.length)
    (idle : r.status ≠ .ongoing) {j : Nat} {t : MissionTask} (place : r.tasks[j]? = some t) :
    (r.applyTaskStatus i .inProgress).1.tasks[j]? =
      some (if i.val = j then { t with status := .inProgress }
        else if i.val < j then t.reset else t) := by
  have reporting : r.tasks[i.val]? = some (r.tasks.get i) := List.getElem?_eq_getElem i.isLt
  have recovery : isRecovery r.status .inProgress = true := by
    simp [isRecovery, MissionStatus.isActive, idle]
  rw [r.getElem?_applyTaskStatus i .inProgress place]
  simp only [recovery, true_and, h.order_lt_iff reporting place]

end Unambiguous
end MissionRun
end MissionTracking
