import MissionTracking.Proofs.Run.Validity
import MissionTracking.Proofs.Store.Assigning

/-!
Names for a run that the controller has not named: one assignment that asks for a name in every slot
of the run. It addresses a task by its order, which no other task of a valid run has, and an
inspection by its own id, which other inspections of the task may have too. Every slot gets its name
exactly when none of them do; otherwise two names meet in one slot, and the assignment is refused
with both.
-/
namespace MissionTracking

theorem mem_mapIdx_iff {f : Nat → α → β} {as : List α} {b : β} :
    b ∈ as.mapIdx f ↔ ∃ j a, as[j]? = some a ∧ f j a = b := by
  simp only [List.mem_iff_getElem?, List.getElem?_mapIdx, Option.map_eq_some_iff]

section
variable [BEq β] [LawfulBEq β] {f : α → β} {as : List α} {j : Nat} {a : α}

theorem exists_findIdx? (place : as[j]? = some a) :
    ∃ k b, as.findIdx? (fun b => f b == f a) = some k ∧ as[k]? = some b ∧ f b = f a := by
  cases found : as.findIdx? fun b => f b == f a with
  | none =>
    exact absurd (List.findIdx?_eq_none_iff.mp found a (List.mem_of_getElem? place)) (by simp)
  | some k =>
    obtain ⟨inside, fits, _⟩ := List.findIdx?_eq_some_iff_getElem.mp found
    exact ⟨k, as[k], rfl, List.getElem?_eq_getElem inside, eq_of_beq fits⟩

theorem findIdx?_of_distinct (distinct : (as.map f).Nodup) (place : as[j]? = some a) :
    as.findIdx? (fun b => f b == f a) = some j := by
  obtain ⟨k, b, found, place', same⟩ := exists_findIdx? (f := f) place
  rw [found, MissionRun.place_unique_of_map distinct place' place same]

end

def MissionTask.naming (t : MissionTask) (own : String) (steps : Nat → String) : TaskIds :=
  ⟨t.taskOrder, some own, t.inspections.mapIdx fun k i => ⟨i.id, steps k⟩⟩

namespace MissionRun

/-- Asks for a name in every slot. -/
def naming (r : MissionRun) (names : IdSlot → String) : Assignment :=
  ⟨some (names .mission),
    r.tasks.mapIdx fun j t => t.naming (names (.task j)) fun k => names (.step j k)⟩

structure IsUnnamed (r : MissionRun) : Prop where
  mission : r.externalMissionId = none
  tasks : ∀ t ∈ r.tasks, t.externalTaskId = none
  steps : ∀ t ∈ r.tasks, ∀ i ∈ t.inspections, i.externalStepId = none

/-- No two tasks get one name, and no two inspections of one task. -/
structure NamesApart (r : MissionRun) (names : IdSlot → String) : Prop where
  tasks : ((r.naming names).tasks.map TaskIds.externalTaskId).Nodup
  steps : ∀ ids ∈ (r.naming names).tasks, (ids.steps.map StepId.externalStepId).Nodup

/-- Two inspections of the task at a position have one id. -/
def Twins (r : MissionRun) (j k l : Nat) : Prop :=
  ∃ t i i', r.tasks[j]? = some t ∧ t.inspections[k]? = some i ∧ t.inspections[l]? = some i' ∧
  k ≠ l ∧ i.id = i'.id

/-- What the assignment says for the first slot addresses the second one. -/
inductive LeadsTo (r : MissionRun) : IdSlot → IdSlot → Prop where
  | mission : LeadsTo r .mission .mission
  | task {j : Nat} {t : MissionTask} (place : r.tasks[j]? = some t) : LeadsTo r (.task j) (.task j)
  | step {j k l : Nat} {t : MissionTask} {i : Inspection} (place : r.tasks[j]? = some t)
      (place' : t.inspections[k]? = some i) (first : r.inspectionPosition j i.id = some l) :
      LeadsTo r (.step j k) (.step j l)

variable {r : MissionRun} {names : IdSlot → String} {own other slot : IdSlot} {x : String}

theorem IsUnnamed.externalIdAt (unnamed : r.IsUnnamed) (slot : IdSlot) :
    r.externalIdAt slot = none := by
  cases slot with
  | mission => exact unnamed.mission
  | task j =>
    cases place : r.tasks[j]? with
    | none => simp only [MissionRun.externalIdAt, place, Option.bind_none]
    | some t =>
      simp only [MissionRun.externalIdAt, place, Option.bind_some,
        unnamed.tasks t (List.mem_of_getElem? place)]
  | step j k =>
    cases place : r.tasks[j]? with
    | none => simp only [MissionRun.externalIdAt, place, Option.bind_none]
    | some t =>
      cases place' : t.inspections[k]? with
      | none =>
        simp only [MissionRun.externalIdAt, place, place', Option.bind_some, Option.bind_none]
      | some i =>
        simp only [MissionRun.externalIdAt, place, place', Option.bind_some,
          unnamed.steps t (List.mem_of_getElem? place) i (List.mem_of_getElem? place')]

theorem orderPosition_of_place
    (ordered : r.tasks.Pairwise fun a b => a.taskOrder < b.taskOrder) {j : Nat}
    {t : MissionTask} (place : r.tasks[j]? = some t) : r.orderPosition t.taskOrder = some j := by
  have distinct : (r.tasks.map MissionTask.taskOrder).Nodup :=
    List.pairwise_map.mpr (ordered.imp fun less => UInt32.ne_of_lt less)
  exact findIdx?_of_distinct distinct place

theorem exists_inspectionPosition {j k : Nat} {t : MissionTask} {i : Inspection}
    (place : r.tasks[j]? = some t)
    (place' : t.inspections[k]? = some i) : ∃ l, r.inspectionPosition j i.id = some l := by
  obtain ⟨l, _, found, _⟩ := exists_findIdx? (f := Inspection.id) place'
  exact ⟨l, by rw [inspectionPosition, place, Option.bind_some, found]⟩

theorem id_of_inspectionPosition {j l : Nat} {id : String}
    (first : r.inspectionPosition j id = some l) :
    (r.tasks[j]?.bind fun t => t.inspections[l]?).map Inspection.id = some id := by
  obtain ⟨t, place, found⟩ := Option.bind_eq_some_iff.mp first
  obtain ⟨inside, fits, _⟩ := List.findIdx?_eq_some_iff_getElem.mp found
  rw [place, Option.bind_some, List.getElem?_eq_getElem inside, Option.map_some, eq_of_beq fits]

theorem exists_leadsTo (has : r.HasSlot own) : ∃ slot, r.LeadsTo own slot := by
  cases own with
  | mission => exact ⟨_, .mission⟩
  | task j =>
    obtain ⟨t, place⟩ := has
    exact ⟨_, .task place⟩
  | step j k =>
    obtain ⟨t, i, place, place'⟩ := has
    obtain ⟨l, first⟩ := exists_inspectionPosition place place'
    exact ⟨_, .step place place' first⟩

theorem LeadsTo.hasSlot (leads : r.LeadsTo own slot) : r.HasSlot own := by
  cases leads with
  | mission => trivial
  | task place => exact ⟨_, place⟩
  | step place place' _ => exact ⟨_, _, place, place'⟩

theorem LeadsTo.eq (distinct : ∀ t ∈ r.tasks, (t.inspections.map Inspection.id).Nodup)
    (leads : r.LeadsTo own slot) : own = slot := by
  cases leads with
  | mission => rfl
  | task => rfl
  | @step j k l t i place place' first =>
    have found := findIdx?_of_distinct (distinct t (List.mem_of_getElem? place)) place'
    rw [inspectionPosition, place, Option.bind_some, found] at first
    cases first
    rfl

namespace NamesApart

theorem task_unique (apart : r.NamesApart names) {j k : Nat} (has : r.HasSlot (.task j))
    (has' : r.HasSlot (.task k)) (same : names (.task j) = names (.task k)) : j = k := by
  obtain ⟨t, place⟩ := has
  obtain ⟨u, place'⟩ := has'
  have entry : (r.naming names).tasks[j]? =
      some (t.naming (names (.task j)) fun k => names (.step j k)) := by
    rw [naming, List.getElem?_mapIdx, place, Option.map_some]
  have entry' : (r.naming names).tasks[k]? =
      some (u.naming (names (.task k)) fun l => names (.step k l)) := by
    rw [naming, List.getElem?_mapIdx, place', Option.map_some]
  exact place_unique_of_map apart.tasks entry entry' (congrArg some same)

theorem step_unique (apart : r.NamesApart names) {j k l : Nat} (has : r.HasSlot (.step j k))
    (has' : r.HasSlot (.step j l)) (same : names (.step j k) = names (.step j l)) : k = l := by
  obtain ⟨t, i, place, place'⟩ := has
  obtain ⟨u, i', here, here'⟩ := has'
  cases place.symm.trans here
  have entry : t.naming (names (.task j)) (fun k => names (.step j k)) ∈ (r.naming names).tasks :=
    mem_mapIdx_iff.mpr ⟨j, t, place, rfl⟩
  have step : (t.naming (names (.task j)) fun k => names (.step j k)).steps[k]? =
      some ⟨i.id, names (.step j k)⟩ := by
    rw [MissionTask.naming, List.getElem?_mapIdx, place', Option.map_some]
  have step' : (t.naming (names (.task j)) fun k => names (.step j k)).steps[l]? =
      some ⟨i'.id, names (.step j l)⟩ := by
    rw [MissionTask.naming, List.getElem?_mapIdx, here', Option.map_some]
  exact place_unique_of_map (apart.steps _ entry) step step' same

end NamesApart

theorem exists_twins (shared : ¬ ∀ t ∈ r.tasks, (t.inspections.map Inspection.id).Nodup) :
    ∃ j k l, r.Twins j k l := by
  by_contra none
  refine shared fun t member => ?_
  obtain ⟨j, place⟩ := List.mem_iff_getElem?.mp member
  rw [List.Nodup, List.pairwise_map, pairwise_iff_getElem?]
  intro k l i i' before place' here' same
  exact none ⟨j, k, l, t, i, i', place, place', here', Nat.ne_of_lt before, same⟩

theorem Twins.leadsTo {j k l : Nat} (twins : r.Twins j k l) :
    ∃ slot, r.LeadsTo (.step j k) slot ∧ r.LeadsTo (.step j l) slot := by
  obtain ⟨t, i, i', place, place', here', _, same⟩ := twins
  obtain ⟨m, first⟩ := exists_inspectionPosition place place'
  exact ⟨_, .step place place' first, .step place here' (same ▸ first)⟩

theorem LeadsTo.eq_or_twins (leads : r.LeadsTo own slot) (leads' : r.LeadsTo other slot) :
    own = other ∨ ∃ j k l, r.Twins j k l ∧ own = .step j k ∧ other = .step j l := by
  cases leads with
  | mission =>
    cases leads'
    exact .inl rfl
  | task =>
    cases leads'
    exact .inl rfl
  | @step j k m t i place place' first =>
    cases leads' with
    | @step _ l _ _ i' here here' first' =>
      cases place.symm.trans here
      by_cases same : k = l
      · exact .inl (congrArg (IdSlot.step j) same)
      · have shared : i.id = i'.id :=
          Option.some.inj
            ((id_of_inspectionPosition first).symm.trans (id_of_inspectionPosition first'))
        exact .inr ⟨j, k, l, ⟨t, i, i', place, place', here', same, shared⟩, rfl, rfl⟩

theorem resolves_naming (ordered : r.tasks.Pairwise fun a b => a.taskOrder < b.taskOrder)
    (names : IdSlot → String) :
    ∀ ids ∈ (r.naming names).tasks, ∃ j, r.orderPosition ids.taskOrder = some j ∧
      ∀ step ∈ ids.steps, ∃ k, r.inspectionPosition j step.inspectionId = some k := by
  intro ids entry
  obtain ⟨j, t, place, rfl⟩ := mem_mapIdx_iff.mp entry
  refine ⟨j, orderPosition_of_place ordered place, ?_⟩
  intro step given
  obtain ⟨k, i, place', rfl⟩ := mem_mapIdx_iff.mp given
  exact exists_inspectionPosition place place'

theorem asks_naming_iff (ordered : r.tasks.Pairwise fun a b => a.taskOrder < b.taskOrder) :
    (r.naming names).Asks r slot x ↔ ∃ own, r.LeadsTo own slot ∧ names own = x := by
  constructor
  · rintro (⟨given⟩ | ⟨entry, place, given⟩ | ⟨entry, place, given, place'⟩)
    · exact ⟨_, .mission, Option.some.inj given⟩
    · obtain ⟨j, t, here, rfl⟩ := mem_mapIdx_iff.mp entry
      cases (orderPosition_of_place ordered here).symm.trans place
      exact ⟨_, .task here, Option.some.inj given⟩
    · obtain ⟨j, t, here, rfl⟩ := mem_mapIdx_iff.mp entry
      cases (orderPosition_of_place ordered here).symm.trans place
      obtain ⟨k, i, here', rfl⟩ := mem_mapIdx_iff.mp given
      exact ⟨_, .step here here' place', rfl⟩
  · rintro ⟨own, leads, rfl⟩
    cases leads with
    | mission => exact .mission rfl
    | @task j t place =>
      exact .task (mem_mapIdx_iff.mpr ⟨j, t, place, rfl⟩) (orderPosition_of_place ordered place) rfl
    | @step j k l t i place place' first =>
      have given : (⟨i.id, names (.step j k)⟩ : StepId) ∈
          (t.naming (names (.task j)) fun k => names (.step j k)).steps :=
        mem_mapIdx_iff.mpr ⟨k, i, place', rfl⟩
      exact .step (mem_mapIdx_iff.mpr ⟨j, t, place, rfl⟩)
        (orderPosition_of_place ordered place) given first

section
variable (ordered : r.tasks.Pairwise fun a b => a.taskOrder < b.taskOrder) (unnamed : r.IsUnnamed)
  (apart : r.NamesApart names)
include ordered unnamed apart

theorem consistent_naming_iff : Consistent r.externalIdAt (r.requests (r.naming names).writes) ↔
    ∀ t ∈ r.tasks, (t.inspections.map Inspection.id).Nodup := by
  rw [Assignment.consistent_iff]
  constructor
  · rintro ⟨agree, _⟩
    by_contra shared
    obtain ⟨j, k, l, twins⟩ := exists_twins shared
    obtain ⟨slot, leads, leads'⟩ := twins.leadsTo
    -- both names are asked for in the one slot, so they agree, and that is not so for two
    -- inspections of a task
    have same := agree slot _ _ ((asks_naming_iff ordered).mpr ⟨_, leads, rfl⟩)
      ((asks_naming_iff ordered).mpr ⟨_, leads', rfl⟩)
    obtain ⟨_, _, _, _, _, _, other, _⟩ := twins
    exact other (apart.step_unique leads.hasSlot leads'.hasSlot same)
  · intro distinct
    constructor
    · intro slot x y asked asked'
      obtain ⟨own, leads, rfl⟩ := (asks_naming_iff ordered).mp asked
      obtain ⟨other, leads', rfl⟩ := (asks_naming_iff ordered).mp asked'
      rw [leads.eq distinct, leads'.eq distinct]
    · intro slot x e _ held
      cases (unnamed.externalIdAt slot).symm.trans held

theorem applied_naming (distinct : ∀ t ∈ r.tasks, (t.inspections.map Inspection.id).Nodup) :
    (r.naming names).applied r = .ok (r.withIds fun slot => some (names slot)) := by
  have consistent := (consistent_naming_iff ordered unnamed apart).mpr distinct
  have filled : (r.naming names).filled r = r.withIds fun slot => some (names slot) := by
    apply withIds_congr
    intro slot has
    obtain ⟨slot', leads⟩ := exists_leadsTo has
    cases leads.eq distinct
    exact consistent.filling_of_mem
      (Assignment.asks_iff.mp ((asks_naming_iff ordered).mpr ⟨slot, leads, rfl⟩))
  refine Assignment.applied_ok_iff_filled.mpr ⟨resolves_naming ordered names, consistent,
    ?_, ?_, filled⟩
  · rw [filled]
    refine taskIds_nodup_iff.mpr fun j k e held held' => ?_
    obtain ⟨has, given⟩ := held_withIds_iff.mp held
    obtain ⟨has', given'⟩ := held_withIds_iff.mp held'
    exact apart.task_unique has has' (Option.some.inj (given.trans given'.symm))
  · rw [filled]
    refine stepIds_nodup_iff.mpr fun j k l e held held' => ?_
    obtain ⟨has, given⟩ := held_withIds_iff.mp held
    obtain ⟨has', given'⟩ := held_withIds_iff.mp held'
    exact apart.step_unique has has' (Option.some.inj (given.trans given'.symm))

/-- The name of one inspection is refused because another inspection with its id has got a name. -/
theorem applied_naming_of_shared
    (shared : ¬ ∀ t ∈ r.tasks, (t.inspections.map Inspection.id).Nodup) :
    ∃ j k l, r.Twins j k l ∧ (r.naming names).applied r =
      .error (.externalIdAssigned .inspection (names (.step j k)) (names (.step j l))) := by
  rcases done : r.writeAll (r.naming names).writes with ⟨left, fault | _⟩
  · have addresses := Assignment.resolves_iff.mpr (resolves_naming ordered names)
    obtain ⟨slot, x, e, asked, before, other, rfl⟩ := exists_clash_of_refused addresses done
    have asked' : (slot, e) ∈ r.requests (r.naming names).writes := by
      refine before.resolve_left fun held => ?_
      cases (unnamed.externalIdAt slot).symm.trans held
    -- nothing was held before, so what stands in the way of the name is another name that was asked
    -- for
    obtain ⟨own, leads, rfl⟩ := (asks_naming_iff ordered).mp (Assignment.asks_iff.mpr asked)
    obtain ⟨own', leads', rfl⟩ := (asks_naming_iff ordered).mp (Assignment.asks_iff.mpr asked')
    obtain same | ⟨j, k, l, twins, rfl, rfl⟩ := leads'.eq_or_twins leads
    · exact absurd (congrArg names same) other
    · refine ⟨j, k, l, twins, ?_⟩
      cases leads
      simp only [Assignment.applied, Assignment.apply, done]
      rfl
  · obtain ⟨_, consistent, _⟩ := writeAll_ok_iff.mp done
    exact absurd ((consistent_naming_iff ordered unnamed apart).mp consistent) shared

end

end MissionRun
end MissionTracking
