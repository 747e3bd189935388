import MissionTracking.Proofs.Run.Writing
import MissionTracking.Proofs.Store.Calls

/-!
Assignments of external ids, which are made as a whole or not at all. What an assignment asks for is
read off its entries; whether a store makes it depends on that and on nothing like the order of the
entries. An assignment that is not made leaves the store as it was, however far its writes came.
-/
namespace MissionTracking

namespace Assignment

/-- An entry asks for a value in the slot of the first task of its order, or of the first inspection
of that task with the id of a step. -/
inductive Asks (a : Assignment) (r : MissionRun) : IdSlot → String → Prop where
  | mission {x : String} (given : a.externalMissionId = some x) : Asks a r .mission x
  | task {ids : TaskIds} {j : Nat} {x : String} (entry : ids ∈ a.tasks)
      (place : r.orderPosition ids.taskOrder = some j)
      (given : ids.externalTaskId = some x) : Asks a r (.task j) x
  | step {ids : TaskIds} {step : StepId} {j k : Nat} (entry : ids ∈ a.tasks)
      (place : r.orderPosition ids.taskOrder = some j) (given : step ∈ ids.steps)
      (place' : r.inspectionPosition j step.inspectionId = some k) : Asks a r (.step j k)
        step.externalStepId

/-- The run with the requested values in its slots. -/
def filled (a : Assignment) (r : MissionRun) : MissionRun :=
  r.withIds (filling r.externalIdAt (r.requests a.writes))

/-- What it takes to make an assignment to a stored run. -/
structure Fits (a : Assignment) (s : Store) (id : String) (r : MissionRun) : Prop where
  resolves : ∀ ids ∈ a.tasks, ∃ j, r.orderPosition ids.taskOrder = some j ∧
    ∀ step ∈ ids.steps, ∃ k, r.inspectionPosition j step.inspectionId = some k
  agree : ∀ slot x y, a.Asks r slot x → a.Asks r slot y → x = y
  held : ∀ slot x e, a.Asks r slot x → r.externalIdAt slot = some e → e = x
  taskIds : (a.filled r).taskIds.Nodup
  stepIds : ∀ t ∈ (a.filled r).tasks, t.stepIds.Nodup
  free : ∀ e, (a.filled r).externalMissionId = some e →
    ∀ q run, s.find? q = some run → run.externalMissionId = some e → q = id

variable {a : Assignment} {r : MissionRun}

theorem mem_writes {w : IdWrite} :
    w ∈ a.writes ↔ (∃ x, a.externalMissionId = some x ∧ w = .mission x) ∨
      ∃ ids ∈ a.tasks, w = .task ids.taskOrder ids.externalTaskId ∨
        ∃ step ∈ ids.steps, w = .step ids.taskOrder step := by
  simp only [writes, TaskIds.writes, List.mem_append, Option.mem_toList, Option.map_eq_some_iff,
    List.mem_flatMap, List.mem_cons, List.mem_map, eq_comm (a := w)]

theorem resolves_iff :
    (∀ w ∈ a.writes, (r.slotOf w).isSome = true) ↔
    ∀ ids ∈ a.tasks, ∃ j, r.orderPosition ids.taskOrder = some j ∧
      ∀ step ∈ ids.steps, ∃ k, r.inspectionPosition j step.inspectionId = some k := by
  constructor
  · intro addresses ids entry
    have task := addresses _ (mem_writes.mpr (.inr ⟨ids, entry, .inl rfl⟩))
    rw [MissionRun.slotOf, Option.isSome_map, Option.isSome_iff_exists] at task
    obtain ⟨j, place⟩ := task
    refine ⟨j, place, ?_⟩
    intro step given
    have slot := addresses _ (mem_writes.mpr (.inr ⟨ids, entry, .inr ⟨step, given, rfl⟩⟩))
    rw [MissionRun.slotOf, place, Option.bind_some, Option.isSome_map,
      Option.isSome_iff_exists] at slot
    exact slot
  · intro resolves w member
    obtain ⟨x, _, rfl⟩ | ⟨ids, entry, rfl | ⟨step, given, rfl⟩⟩ := mem_writes.mp member
    · rfl
    · obtain ⟨j, place, _⟩ := resolves ids entry
      rw [MissionRun.slotOf, place]
      rfl
    · obtain ⟨j, place, steps⟩ := resolves ids entry
      obtain ⟨k, place'⟩ := steps step given
      rw [MissionRun.slotOf, place, Option.bind_some, place']
      rfl

theorem asks_iff {slot : IdSlot} {x : String} :
    a.Asks r slot x ↔ (slot, x) ∈ r.requests a.writes := by
  rw [MissionRun.mem_requests]
  constructor
  · rintro (⟨given⟩ | ⟨entry, place, given⟩ | ⟨entry, place, given, place'⟩)
    · exact ⟨_, mem_writes.mpr (.inl ⟨_, given, rfl⟩), rfl, rfl⟩
    · exact ⟨_, mem_writes.mpr (.inr ⟨_, entry, .inl rfl⟩),
        by rw [MissionRun.slotOf, place, Option.map_some], given⟩
    · exact ⟨_, mem_writes.mpr (.inr ⟨_, entry, .inr ⟨_, given, rfl⟩⟩),
        by rw [MissionRun.slotOf, place, Option.bind_some, place', Option.map_some], rfl⟩
  · rintro ⟨w, member, addressed, value⟩
    obtain ⟨x, given, rfl⟩ | ⟨ids, entry, rfl | ⟨step, given, rfl⟩⟩ := mem_writes.mp member
    · cases addressed
      cases value
      exact .mission given
    · obtain ⟨j, place, rfl⟩ := Option.map_eq_some_iff.mp addressed
      exact .task entry place value
    · obtain ⟨j, place, addressed⟩ := Option.bind_eq_some_iff.mp addressed
      obtain ⟨k, place', rfl⟩ := Option.map_eq_some_iff.mp addressed
      cases value
      exact .step entry place given place'

theorem consistent_iff :
    Consistent r.externalIdAt (r.requests a.writes) ↔
      (∀ slot x y, a.Asks r slot x → a.Asks r slot y → x = y) ∧
      ∀ slot x e, a.Asks r slot x → r.externalIdAt slot = some e → e = x := by
  simp only [asks_iff]
  exact ⟨fun consistent => ⟨consistent.agree, consistent.held⟩, fun ⟨agree, held⟩ => ⟨agree, held⟩⟩

theorem filled_slots (consistent : Consistent r.externalIdAt (r.requests a.writes)) :
    (a.filled r).externalIdAt = filling r.externalIdAt (r.requests a.writes) ∧
      (∀ slot x, a.Asks r slot x → (a.filled r).externalIdAt slot = some x) ∧
      ∀ slot, (∀ x, ¬ a.Asks r slot x) → (a.filled r).externalIdAt slot = r.externalIdAt slot := by
  have ids : (a.filled r).externalIdAt = filling r.externalIdAt (r.requests a.writes) :=
    r.externalIdAt_filling a.writes
  refine ⟨ids, ?_, ?_⟩
  · intro slot x asked
    rw [ids, consistent.filling_of_mem (asks_iff.mp asked)]
  · intro slot unasked
    rw [ids]
    exact filling_of_not_mem fun x member => unasked x (asks_iff.mpr member)

/-- An assignment to a run at hand, without regard to other runs. -/
theorem applied_ok_iff_filled {changed : MissionRun} :
    a.applied r = .ok changed ↔
      (∀ ids ∈ a.tasks, ∃ j, r.orderPosition ids.taskOrder = some j ∧
        ∀ step ∈ ids.steps, ∃ k, r.inspectionPosition j step.inspectionId = some k) ∧
      Consistent r.externalIdAt (r.requests a.writes) ∧
      (a.filled r).taskIds.Nodup ∧ (∀ t ∈ (a.filled r).tasks, t.stepIds.Nodup) ∧
      a.filled r = changed := by
  rw [applied_ok_iff, apply_ok_iff, MissionRun.writeAll_ok_iff, resolves_iff]
  constructor
  · rintro ⟨⟨resolves, consistent, rfl⟩, checked⟩
    obtain ⟨taskIds, _, stepIds⟩ :=
      MissionRun.externalIdFault_eq_none_iff.mp (MissionRun.checkExternalIds_ok.mp checked)
    exact ⟨resolves, consistent, taskIds, stepIds, rfl⟩
  · rintro ⟨resolves, consistent, taskIds, stepIds, rfl⟩
    refine ⟨⟨resolves, consistent, rfl⟩, ?_⟩
    rw [MissionRun.checkExternalIds_ok, MissionRun.externalIdFault_eq_none_iff]
    exact ⟨taskIds, fun e _ => List.not_mem_nil, stepIds⟩

end Assignment

namespace Store
variable {s : Store} {id : String} {r : MissionRun} {a : Assignment}

theorem Coherent.isTaken_iff (h : s.Coherent) {e : String} :
    s.isTaken id e = true ↔
    ∃ q run, s.find? q = some run ∧ run.externalMissionId = some e ∧ q ≠ id := by
  rw [isTaken, Option.any_eq_true]
  constructor
  · rintro ⟨q, entry, other⟩
    obtain ⟨run, found, held⟩ := h.indexed.mp entry
    exact ⟨q, run, found, held, bne_iff_ne.mp other⟩
  · rintro ⟨q, run, found, held, other⟩
    exact ⟨q, h.indexed.mpr ⟨run, found, held⟩, bne_iff_ne.mpr other⟩

theorem Coherent.isTaken_eq_false_iff (h : s.Coherent) {e : String} :
    s.isTaken id e = false ↔
    ∀ q run, s.find? q = some run → run.externalMissionId = some e → q = id := by
  rw [← Bool.not_eq_true, h.isTaken_iff]
  push Not
  rfl

theorem assign_error_of_applied {fault : ValidationError} (found : s.find? id = some r)
    (refused : a.applied r = .error fault) : s.assign id a = .error fault := by
  simp only [assign, found, refused, bind, Except.bind]

theorem assign_cases (found : s.find? id = some r) (a : Assignment) :
    (∃ fault, s.assign id a = .error fault) ∨
    ∃ next changed, s.assign id a = .ok (some (next, changed)) := by
  cases applied : a.applied r with
  | error fault => exact .inl ⟨fault, assign_error_of_applied found applied⟩
  | ok changed =>
    cases claimed : changed.externalMissionId.filter (s.isTaken id) with
    | some e =>
      exact .inl ⟨_, by simp only [assign, found, applied, bind, Except.bind, claimed]; rfl⟩
    | none =>
      exact .inr ⟨_, _, by simp only [assign, found, applied, bind, Except.bind, claimed]; rfl⟩

theorem assign_ok_of_free {changed : MissionRun} (found : s.find? id = some r)
    (applied : a.applied r = .ok changed)
    (free : ∀ e, changed.externalMissionId = some e → s.isTaken id e = false) :
    s.assign id a = .ok (some ((s.indexRun changed).put id changed, changed)) := by
  have unclaimed : changed.externalMissionId.filter (s.isTaken id) = none := by
    cases held : changed.externalMissionId with
    | none => rfl
    | some e => rw [Option.filter_some, free e held, if_neg Bool.false_ne_true]
  simp only [assign, found, applied, bind, Except.bind, unclaimed]

theorem Coherent.fits_iff (h : s.Coherent) (found : s.find? id = some r) :
    a.Fits s id r ↔ ∃ next, s.assign id a = .ok (some (next, a.filled r)) := by
  constructor
  · intro fits
    have consistent := Assignment.consistent_iff.mpr ⟨fits.agree, fits.held⟩
    have applied := Assignment.applied_ok_iff_filled.mpr
      ⟨fits.resolves, consistent, fits.taskIds, fits.stepIds, rfl⟩
    exact ⟨_,
      assign_ok_of_free found applied fun e held => h.isTaken_eq_false_iff.mpr (fits.free e held)⟩
  · rintro ⟨next, done⟩
    obtain ⟨r', found', applied, own, _⟩ := assign_ok done
    cases found.symm.trans found'
    obtain ⟨resolves, consistent, taskIds, stepIds, _⟩ :=
      Assignment.applied_ok_iff_filled.mp applied
    obtain ⟨agree, held⟩ := Assignment.consistent_iff.mp consistent
    refine ⟨resolves, agree, held, taskIds, stepIds, ?_⟩
    intro e held q run stored held'
    exact own e q held (h.indexed.mpr ⟨run, stored, held'⟩)

/-- An assignment to a stored run that fits is made, and then the run holds what was asked for in
the slots that were asked for and is otherwise the same, it is found by its external mission id, and
no other run has changed. An assignment that does not fit is refused and leaves the store as it
was. -/
theorem assign_all_or_nothing {s : Store} (reachable : s.Reachable) {id : String} {r : MissionRun}
    (found : s.find? id = some r) (a : Assignment) :
    (a.Fits s id r → ∃ next, s.assign id a = .ok (some (next, a.filled r)) ∧
      (s.perform (.assign id a : StoreCall Unit)).1 = next ∧
      a.filled r = r.withIds (a.filled r).externalIdAt ∧
      (∀ slot x, a.Asks r slot x → (a.filled r).externalIdAt slot = some x) ∧
      (∀ slot, (∀ x, ¬ a.Asks r slot x) → (a.filled r).externalIdAt slot = r.externalIdAt slot) ∧
      (∀ q, next.find? q = if id = q then some (a.filled r) else s.find? q) ∧
      ∀ e : String,
      next.index[e]? = if (a.filled r).externalMissionId = some e then some id else s.index[e]?) ∧
    (¬ a.Fits s id r → ∃ fault, s.assign id a = .error fault ∧
      (s.perform (.assign id a : StoreCall Unit)).1 = s) := by
  have h := reachable.coherent
  constructor
  · intro fits
    have consistent := Assignment.consistent_iff.mpr ⟨fits.agree, fits.held⟩
    obtain ⟨ids, asked, unasked⟩ := Assignment.filled_slots consistent
    obtain ⟨next, done⟩ := (h.fits_iff found).mp fits
    refine ⟨next, done, ?_, ?_, asked, unasked, find?_assign done, ?_⟩
    · simp only [perform, StoreOperations.perform, operations, done]
    · rw [ids]
      rfl
    · intro e
      obtain ⟨_, _, _, _, made⟩ := assign_ok done
      have same : (a.filled r).id = r.id := rfl
      rw [made, index_put, index_indexRun, same, h.keyed found]
  · intro misfit
    rcases assign_cases found a with ⟨fault, refused⟩ | ⟨next, changed, done⟩
    · refine ⟨fault, refused, ?_⟩
      simp only [perform, StoreOperations.perform, operations, refused]
    · obtain ⟨r', found', applied, _⟩ := assign_ok done
      cases found.symm.trans found'
      obtain ⟨_, _, _, _, rfl⟩ := Assignment.applied_ok_iff_filled.mp applied
      exact absurd ((h.fits_iff found).mpr ⟨next, done⟩) misfit

def unnamed : MissionRun :=
  (MissionRun.plain "run").withTask
    ((MissionTask.fresh "task" 1).withInspection (Inspection.fresh "inspection" .image))

def naming : Assignment :=
  ⟨some "deck", [⟨1, some "valves", []⟩, ⟨1, none, [⟨"inspection", "photo"⟩]⟩]⟩

def namingTwice : Assignment := ⟨some "deck", [⟨1, some "valves", []⟩, ⟨1, some "pumps", []⟩]⟩

theorem assign_all_or_nothing_unnamed :
    ∃ s : Store, s = (Store.empty.perform (.create unnamed : StoreCall Unit)).1 ∧
      (∃ next, s.assign "run" naming = .ok (some (next, naming.filled unnamed)) ∧
        (naming.filled unnamed).externalIdAt (.step 0 0) = some "photo" ∧
        next.index["deck"]? = some "run") ∧
      ∃ fault, s.assign "run" namingTwice = .error fault ∧
        (s.perform (.assign "run" namingTwice : StoreCall Unit)).1 = s := by
  have reachable : (Store.empty.perform (.create unnamed : StoreCall Unit)).1.Reachable :=
    .call (.create unnamed : StoreCall Unit) .empty
  have found :
      (Store.empty.perform (.create unnamed : StoreCall Unit)).1.find? "run" = some unnamed := by
    decide +kernel
  refine ⟨_, rfl, ?_, ?_⟩
  · have fits :
        naming.Fits (Store.empty.perform (.create unnamed : StoreCall Unit)).1 "run" unnamed := by
      rw [reachable.coherent.fits_iff found]
      refine ⟨_, assign_ok_of_free found (by decide +kernel) ?_⟩
      intro e held
      cases held
      decide +kernel
    obtain ⟨next, done, _, _, asked, _, _, index⟩ :=
      (assign_all_or_nothing reachable found naming).1 fits
    have step : naming.Asks unnamed (.step 0 0) (StepId.mk "inspection" "photo").externalStepId :=
      .step (List.mem_cons_of_mem _ List.mem_cons_self) (by decide) List.mem_cons_self (by decide)
    exact ⟨next, done, asked _ _ step, (index "deck").trans (by decide +kernel)⟩
  · have misfit : ¬ namingTwice.Fits (Store.empty.perform (.create unnamed : StoreCall Unit)).1
      "run" unnamed := by
      intro fits
      have first : namingTwice.Asks unnamed (.task 0) "valves" :=
        .task List.mem_cons_self (by decide) rfl
      have second : namingTwice.Asks unnamed (.task 0) "pumps" :=
        .task (List.mem_cons_of_mem _ List.mem_cons_self) (by decide) rfl
      exact absurd (fits.agree _ _ _ first second) (by decide)
    exact (assign_all_or_nothing reachable found namingTwice).2 misfit

end Store
end MissionTracking
