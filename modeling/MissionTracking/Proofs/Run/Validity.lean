import MissionTracking.Proofs.Run.Unambiguous
import MissionTracking.Proofs.Text.Words

/-!
Runs that may be stored for the first time, said of all their tasks and of any two of them. The
checks compare neighbours, stop at the first fault and remember the external ids that they have
seen; what they accept is exactly these runs.
-/
namespace MissionTracking
open Text

def Text.IsVisible (s : String) : Prop := ∃ c ∈ s.toList, isBlank c = false

/-- At most 1024 bytes in UTF-8. -/
def Text.IsShort (s : String) : Prop := s.utf8ByteSize ≤ 1024

/-- A mission that has not begun: its tasks stand in order, and no external id names two tasks, or
two inspections of one task. -/
structure MissionRun.IsSkeleton (r : MissionRun) : Prop where
  name_visible : IsVisible r.name
  assetCode_visible : IsVisible r.assetCode
  name_short : IsShort r.name
  description_short : ∀ s ∈ r.description, IsShort s
  comment_short : ∀ s ∈ r.comment, IsShort s
  pending : r.status = .pending
  ordered : ∀ (j k : Nat) (a b : MissionTask), j < k → r.tasks[j]? = some a → r.tasks[k]? = some b →
    a.taskOrder < b.taskOrder
  tasks_idle : ∀ t ∈ r.tasks, t.status = .notStarted
  steps_idle : ∀ t ∈ r.tasks, ∀ i ∈ t.inspections, i.status = .notStarted
  taskIds_apart : ∀ j k e, r.externalIdAt (.task j) = some e →
      r.externalIdAt (.task k) = some e → j = k
  stepIds_apart : ∀ j k l e, r.externalIdAt (.step j k) = some e →
      r.externalIdAt (.step j l) = some e → k = l

theorem Text.isBlankText_iff {s : String} : IsBlankText s ↔ ¬ IsVisible s := by
  simp only [IsBlankText, trim_eq_nil_iff, IsVisible, not_exists, not_and, Bool.not_eq_false]

theorem pairwise_iff_getElem? {p : α → α → Prop} {as : List α} :
    as.Pairwise p ↔ ∀ (j k : Nat) (a b : α), j < k → as[j]? = some a → as[k]? = some b → p a b := by
  rw [List.pairwise_iff_getElem]
  constructor
  · intro pairs j k a b before first second
    obtain ⟨hj, rfl⟩ := List.getElem?_eq_some_iff.mp first
    obtain ⟨hk, rfl⟩ := List.getElem?_eq_some_iff.mp second
    exact pairs j k hj hk before
  · intro pairs j k hj hk before
    exact pairs j k _ _ before (List.getElem?_eq_getElem hj) (List.getElem?_eq_getElem hk)

theorem nodup_filterMap_iff {f : α → Option β} {as : List α} :
    (as.filterMap f).Nodup ↔
      ∀ (j k : Nat) (b : β), as[j]?.bind f = some b → as[k]?.bind f = some b → j = k := by
  constructor
  · intro distinct j k b first second
    obtain ⟨a, here, gives⟩ := Option.bind_eq_some_iff.mp first
    obtain ⟨c, there, gives'⟩ := Option.bind_eq_some_iff.mp second
    exact MissionRun.place_unique distinct here there gives gives'
  · intro apart
    rw [List.Nodup, List.pairwise_filterMap, pairwise_iff_getElem?]
    rintro j k a c before here there b gives _ gives' rfl
    have same := apart j k b (Option.bind_eq_some_iff.mpr ⟨a, here, gives⟩)
      (Option.bind_eq_some_iff.mpr ⟨c, there, gives'⟩)
    omega

namespace MissionRun
variable {r : MissionRun}

theorem lengthFault_eq_none_iff {field s : String} : lengthFault field s = none ↔ IsShort s := by
  rw [lengthFault, IsShort, ite_eq_right_iff, maxTextBytes]
  simp only [reduceCtorEq, imp_false, Nat.not_lt]

theorem bind_lengthFault_eq_none_iff {field : String} {text : Option String} :
    text.bind (lengthFault field) = none ↔ ∀ s ∈ text, IsShort s := by
  cases text <;> simp [lengthFault_eq_none_iff]

theorem begunFault_eq_none_iff {t : MissionTask} :
    begunFault t = none ↔ t.status = .notStarted ∧ ∀ i ∈ t.inspections, i.status = .notStarted := by
  unfold begunFault
  by_cases idle : t.status = .notStarted
  · simp [idle]
  · simp [idle]

theorem taskIds_nodup_iff : r.taskIds.Nodup ↔
    ∀ j k e, r.externalIdAt (.task j) = some e → r.externalIdAt (.task k) = some e → j = k :=
  nodup_filterMap_iff

theorem stepIds_nodup_iff : (∀ t ∈ r.tasks, t.stepIds.Nodup) ↔
    ∀ j k l e, r.externalIdAt (.step j k) = some e →
    r.externalIdAt (.step j l) = some e → k = l := by
  have each : (∀ t ∈ r.tasks, t.stepIds.Nodup) ↔
      ∀ (j : Nat) (t : MissionTask), r.tasks[j]? = some t → t.stepIds.Nodup := by
    simp only [List.mem_iff_getElem?]
    exact ⟨fun distinct j t place => distinct t ⟨j, place⟩,
      fun distinct t ⟨j, place⟩ => distinct j t place⟩
  rw [each]
  refine forall_congr' fun j => ?_
  simp only [externalIdAt]
  cases r.tasks[j]? with
  | none => simp
  | some t =>
    simp only [Option.some.injEq, forall_eq', Option.bind_some]
    exact nodup_filterMap_iff

theorem fault?_eq_none_iff : r.fault? = none ↔ r.IsSkeleton := by
  have ordered :
      orderFault r.tasks = none ↔ r.tasks.Pairwise fun a b => a.taskOrder < b.taskOrder :=
    orderFault_eq_none_iff
  have idle : r.tasks.findSome? begunFault = none ↔
      ∀ t ∈ r.tasks, t.status = .notStarted ∧ ∀ i ∈ t.inspections, i.status = .notStarted := by
    simp only [List.findSome?_eq_none_iff, begunFault_eq_none_iff]
  have apart :
      externalIdFault [] r.tasks = none ↔ r.taskIds.Nodup ∧ ∀ t ∈ r.tasks, t.stepIds.Nodup := by
    simp [externalIdFault_eq_none_iff, taskIds]
  rw [pairwise_iff_getElem?] at ordered
  rw [taskIds_nodup_iff, stepIds_nodup_iff] at apart
  simp only [fault?, Option.orElse_eq_none, ite_eq_right_iff, reduceCtorEq, imp_false,
    isBlankText_iff, not_not, lengthFault_eq_none_iff, bind_lengthFault_eq_none_iff, ordered,
    idle, apart]
  constructor
  · rintro ⟨name, assetCode, short, description, comment, pending, ordered, idle, taskIds, stepIds⟩
    exact ⟨name, assetCode, short, description, comment, pending, ordered,
      fun t member => (idle t member).1, fun t member => (idle t member).2, taskIds, stepIds⟩
  · rintro ⟨name, assetCode, short, description, comment, pending, ordered, tasks, steps,
      taskIds, stepIds⟩
    exact ⟨name, assetCode, short, description, comment, pending, ordered,
      fun t member => ⟨tasks t member, steps t member⟩, taskIds, stepIds⟩

/-- A new run is accepted exactly when it is a skeleton. -/
theorem validate_ok_iff (r : MissionRun) : r.validate = .ok () ↔ r.IsSkeleton :=
  validate_ok.trans fault?_eq_none_iff

end MissionRun
end MissionTracking
