import MissionTracking.Proofs.Run.Unambiguous
import Mathlib.Logic.Function.Basic

/-!
Slots of external ids that are filled by requests. Requests are consistent when no slot is asked for
two values, or for another one than it holds, and consistent requests may be filled in one after the
other. A run can be given any ids in its slots, and is otherwise the same.
-/
namespace MissionTracking

/-- A slot is asked for one value only, and for the one that it holds if it holds any. -/
structure Consistent (held : IdSlot → Option String)
    (requests : List (IdSlot × String)) : Prop where
  agree : ∀ slot x y, (slot, x) ∈ requests → (slot, y) ∈ requests → x = y
  held : ∀ slot x e, (slot, x) ∈ requests → held slot = some e → e = x

/-- What slots hold when those that are asked for are filled. -/
def filling (held : IdSlot → Option String) (requests : List (IdSlot × String)) :
    IdSlot → Option String :=
  fun slot => (requests.lookup slot).or (held slot)

section
variable {held : IdSlot → Option String} {requests earlier later : List (IdSlot × String)}
  {slot : IdSlot} {x : String}

theorem filling_of_not_mem (unasked : ∀ x, (slot, x) ∉ requests) :
    filling held requests slot = held slot := by
  have missing : requests.lookup slot = none := by
    rw [List.lookup_eq_none_iff]
    rintro ⟨other, x⟩ member
    rw [bne_iff_ne]
    rintro rfl
    exact unasked x member
  rw [filling, missing, Option.none_or]

theorem Consistent.filling_of_mem (consistent : Consistent held requests)
    (asked : (slot, x) ∈ requests) : filling held requests slot = some x := by
  cases found : requests.lookup slot with
  | none =>
    have other := List.lookup_eq_none_iff.mp found _ asked
    simp at other
  | some y =>
    obtain ⟨before, after, split, _⟩ := List.lookup_eq_some_iff.mp found
    have member : (slot, y) ∈ requests := by
      rw [split]
      simp
    rw [filling, found, Option.some_or, consistent.agree slot x y asked member]

theorem Consistent.append_iff :
    Consistent held (earlier ++ later) ↔
    Consistent held earlier ∧ Consistent (filling held earlier) later := by
  constructor
  · intro both
    have first : Consistent held earlier :=
      ⟨fun slot x y hx hy =>
        both.agree slot x y (List.mem_append_left _ hx) (List.mem_append_left _ hy),
        fun slot x e hx => both.held slot x e (List.mem_append_left _ hx)⟩
    refine ⟨first, ?_, ?_⟩
    · intro slot x y hx hy
      exact both.agree slot x y (List.mem_append_right _ hx) (List.mem_append_right _ hy)
    · intro slot x e hx filled
      by_cases asked : ∃ y, (slot, y) ∈ earlier
      · obtain ⟨y, hy⟩ := asked
        rw [first.filling_of_mem hy] at filled
        cases filled
        exact both.agree slot e x (List.mem_append_left _ hy) (List.mem_append_right _ hx)
      · rw [filling_of_not_mem fun y hy => asked ⟨y, hy⟩] at filled
        exact both.held slot x e (List.mem_append_right _ hx) filled
  · rintro ⟨first, second⟩
    have across {slot : IdSlot} {x y : String} (hx : (slot, x) ∈ earlier) (hy : (slot, y) ∈ later) :
        x = y :=
      second.held slot y x hy (first.filling_of_mem hx)
    constructor
    · intro slot x y hx hy
      rcases List.mem_append.mp hx with hx | hx <;> rcases List.mem_append.mp hy with hy | hy
      · exact first.agree slot x y hx hy
      · exact across hx hy
      · exact (across hy hx).symm
      · exact second.agree slot x y hx hy
    · intro slot x e hx now
      rcases List.mem_append.mp hx with hx | hx
      · exact first.held slot x e hx now
      · by_cases asked : ∃ y, (slot, y) ∈ earlier
        · obtain ⟨y, hy⟩ := asked
          exact (first.held slot y e hy now).trans (across hy hx)
        · have kept : filling held earlier slot = held slot :=
            filling_of_not_mem fun y hy => asked ⟨y, hy⟩
          exact second.held slot x e hx (kept.trans now)

theorem Consistent.filling_append (consistent : Consistent held (earlier ++ later)) :
    filling held (earlier ++ later) = filling (filling held earlier) later := by
  obtain ⟨first, second⟩ := Consistent.append_iff.mp consistent
  funext slot
  by_cases asked : ∃ x, (slot, x) ∈ later
  · obtain ⟨x, hx⟩ := asked
    rw [consistent.filling_of_mem (List.mem_append_right _ hx), second.filling_of_mem hx]
  · have kept : filling (filling held earlier) later slot = filling held earlier slot :=
      filling_of_not_mem fun x hx => asked ⟨x, hx⟩
    rw [kept]
    by_cases before : ∃ x, (slot, x) ∈ earlier
    · obtain ⟨x, hx⟩ := before
      rw [consistent.filling_of_mem (List.mem_append_left _ hx), first.filling_of_mem hx]
    · have unasked : ∀ x, (slot, x) ∉ earlier ++ later := by
        intro x member
        rcases List.mem_append.mp member with hx | hx
        · exact before ⟨x, hx⟩
        · exact asked ⟨x, hx⟩
      rw [filling_of_not_mem unasked, filling_of_not_mem fun x hx => before ⟨x, hx⟩]

theorem consistent_singleton : Consistent held [(slot, x)] ↔ ∀ e, held slot = some e → e = x := by
  constructor
  · intro consistent e now
    exact consistent.held slot x e List.mem_cons_self now
  · intro fits
    constructor
    · intro other a b ha hb
      simp only [List.mem_singleton, Prod.mk.injEq] at ha hb
      rw [ha.2, hb.2]
    · intro other a e ha now
      simp only [List.mem_singleton, Prod.mk.injEq] at ha
      rw [ha.2]
      exact fits e (ha.1 ▸ now)

theorem filling_singleton : filling held [(slot, x)] = Function.update held slot (some x) := by
  funext other
  by_cases here : other = slot
  · simp [filling, here]
  · simp [filling, List.lookup_cons, here, beq_eq_false_iff_ne.mpr here]

end

namespace MissionTask

def withIds (t : MissionTask) (own : Option String) (steps : Nat → Option String) : MissionTask :=
  { t with externalTaskId := own,
           inspections := t.inspections.mapIdx fun k i => { i with externalStepId := steps k } }

end MissionTask

namespace MissionRun

/-- The run with other external ids, and otherwise as it is. -/
def withIds (r : MissionRun) (ids : IdSlot → Option String) : MissionRun :=
  { r with
    externalMissionId := ids .mission
    tasks := r.tasks.mapIdx fun j t => t.withIds (ids (.task j)) fun k => ids (.step j k) }

def HasSlot (r : MissionRun) : IdSlot → Prop
  | .mission => True
  | .task j => ∃ t, r.tasks[j]? = some t
  | .step j k => ∃ t i, r.tasks[j]? = some t ∧ t.inspections[k]? = some i

def orderPosition (r : MissionRun) (order : UInt32) : Option Nat :=
  r.tasks.findIdx? fun t => t.taskOrder == order

def inspectionPosition (r : MissionRun) (j : Nat) (id : String) : Option Nat :=
  r.tasks[j]?.bind fun t => t.inspections.findIdx? fun i => i.id == id

variable {r changed : MissionRun} {ids : IdSlot → Option String} {slot : IdSlot}

theorem getElem?_withIds (r : MissionRun) (ids : IdSlot → Option String) (j : Nat) :
    (r.withIds ids).tasks[j]? =
    r.tasks[j]?.map fun t => t.withIds (ids (.task j)) fun k => ids (.step j k) := by
  simp only [withIds, List.getElem?_mapIdx]

theorem hasSlot_of_held {e : String} (now : r.externalIdAt slot = some e) : r.HasSlot slot := by
  cases slot with
  | mission => trivial
  | task j =>
    obtain ⟨t, place, _⟩ := Option.bind_eq_some_iff.mp now
    exact ⟨t, place⟩
  | step j k =>
    obtain ⟨i, found, _⟩ := Option.bind_eq_some_iff.mp now
    obtain ⟨t, place, step⟩ := Option.bind_eq_some_iff.mp found
    exact ⟨t, i, place, step⟩

theorem hasSlot_withIds : (r.withIds ids).HasSlot slot ↔ r.HasSlot slot := by
  cases slot with
  | mission => rfl
  | task j =>
    simp only [HasSlot, getElem?_withIds, Option.map_eq_some_iff]
    constructor
    · rintro ⟨_, t, place, _⟩
      exact ⟨t, place⟩
    · rintro ⟨t, place⟩
      exact ⟨_, t, place, rfl⟩
  | step j k =>
    simp only [HasSlot, getElem?_withIds, Option.map_eq_some_iff]
    constructor
    · rintro ⟨_, _, ⟨t, place, rfl⟩, step⟩
      rw [MissionTask.withIds, List.getElem?_mapIdx, Option.map_eq_some_iff] at step
      obtain ⟨i, step, _⟩ := step
      exact ⟨t, i, place, step⟩
    · rintro ⟨t, i, place, step⟩
      refine ⟨_, { i with externalStepId := ids (.step j k) }, ⟨t, place, rfl⟩, ?_⟩
      rw [MissionTask.withIds, List.getElem?_mapIdx, step, Option.map_some]

theorem externalIdAt_withIds_of_hasSlot (has : r.HasSlot slot) :
    (r.withIds ids).externalIdAt slot = ids slot := by
  cases slot with
  | mission => rfl
  | task j =>
    obtain ⟨t, place⟩ := has
    rw [externalIdAt, getElem?_withIds, place]
    rfl
  | step j k =>
    obtain ⟨t, i, place, step⟩ := has
    simp only [externalIdAt, getElem?_withIds, place, Option.map_some, Option.bind_some,
      MissionTask.withIds, List.getElem?_mapIdx, step]

theorem held_withIds_iff {e : String} :
    (r.withIds ids).externalIdAt slot = some e ↔ r.HasSlot slot ∧ ids slot = some e := by
  constructor
  · intro held
    have has := hasSlot_withIds.mp (hasSlot_of_held held)
    exact ⟨has, (externalIdAt_withIds_of_hasSlot has).symm.trans held⟩
  · rintro ⟨has, given⟩
    exact (externalIdAt_withIds_of_hasSlot has).trans given

theorem externalIdAt_withIds (inside : ∀ slot e, ids slot = some e → r.HasSlot slot) :
    (r.withIds ids).externalIdAt = ids := by
  funext slot
  apply Option.ext
  intro e
  rw [held_withIds_iff, and_iff_right_of_imp (inside slot e)]

theorem withIds_congr {ids' : IdSlot → Option String}
    (same : ∀ slot, r.HasSlot slot → ids slot = ids' slot) : r.withIds ids = r.withIds ids' := by
  have tasks : (r.withIds ids).tasks = (r.withIds ids').tasks := by
    apply List.mapIdx_eq_mapIdx_iff.mpr
    intro j inside
    have place : r.tasks[j]? = some r.tasks[j] := List.getElem?_eq_getElem inside
    have inspections :
        (r.tasks[j].inspections.mapIdx fun k i => { i with externalStepId := ids (.step j k) }) =
        r.tasks[j].inspections.mapIdx fun k i => { i with externalStepId := ids' (.step j k) } := by
      apply List.mapIdx_eq_mapIdx_iff.mpr
      intro k inside'
      rw [same (.step j k) ⟨_, _, place, List.getElem?_eq_getElem inside'⟩]
    rw [MissionTask.withIds, MissionTask.withIds, same (.task j) ⟨_, place⟩, inspections]
  have mission : ids .mission = ids' .mission := same .mission trivial
  exact congrArg₂ (fun m ts => { r with externalMissionId := m, tasks := ts }) mission tasks

theorem withIds_withIds (r : MissionRun) (ids ids' : IdSlot → Option String) :
    (r.withIds ids).withIds ids' = r.withIds ids' := by
  simp only [withIds, List.mapIdx_mapIdx, MissionTask.withIds, Function.comp_def]

theorem withIds_held {j : Nat} {t : MissionTask} (place : r.tasks[j]? = some t) :
    t.withIds (r.externalIdAt (.task j)) (fun k => r.externalIdAt (.step j k)) = t := by
  have inspections :
      (t.inspections.mapIdx fun k i => { i with externalStepId := r.externalIdAt (.step j k) }) =
      t.inspections := by
    apply mapIdx_eq_self
    intro k i step
    rw [externalIdAt, place, Option.bind_some, step, Option.bind_some]
  rw [MissionTask.withIds, inspections, externalIdAt, place, Option.bind_some]

theorem withIds_own (r : MissionRun) : r.withIds r.externalIdAt = r := by
  have tasks : (r.withIds r.externalIdAt).tasks = r.tasks := by
    apply mapIdx_eq_self
    intro j t place
    exact withIds_held place
  exact congrArg (fun ts => { r with tasks := ts }) tasks

theorem withIds_set {j : Nat} {t changed : MissionTask} (place : r.tasks[j]? = some t)
    (mission : ids .mission = r.externalMissionId)
    (here : t.withIds (ids (.task j)) (fun k => ids (.step j k)) = changed)
    (task : ∀ l, l ≠ j → ids (.task l) = r.externalIdAt (.task l))
    (step : ∀ l, l ≠ j → ∀ k, ids (.step l k) = r.externalIdAt (.step l k)) :
    r.withIds ids = { r with tasks := r.tasks.set j changed } := by
  have tasks : (r.withIds ids).tasks = r.tasks.set j changed := by
    apply List.ext_getElem?
    intro l
    rw [getElem?_withIds, List.getElem?_set]
    by_cases own : j = l
    · subst own
      have inside := (List.getElem?_eq_some_iff.mp place).1
      rw [if_pos rfl, if_pos inside, place, Option.map_some, here]
    · rw [if_neg own]
      cases there : r.tasks[l]? with
      | none => rfl
      | some u => rw [Option.map_some, task l (Ne.symm own), funext (step l (Ne.symm own)),
        withIds_held there]
  rw [← tasks, ← mission]
  rfl

theorem orderPosition_withIds (r : MissionRun) (ids : IdSlot → Option String) (order : UInt32) :
    (r.withIds ids).orderPosition order = r.orderPosition order := by
  apply findIdx?_mapIdx
  intro j t
  rfl

theorem inspectionPosition_withIds (r : MissionRun) (ids : IdSlot → Option String) (j : Nat)
    (id : String) : (r.withIds ids).inspectionPosition j id = r.inspectionPosition j id := by
  rw [inspectionPosition, getElem?_withIds, Option.bind_map, inspectionPosition]
  congr 1
  funext t
  apply findIdx?_mapIdx
  intro k i
  rfl

end MissionRun
end MissionTracking
