import MissionTracking.Proofs.Run.Filling

/-!
Writes of external ids. A single write succeeds when it addresses a slot that is free or holds the
value that it asks for. A list of writes is carried out to its end when every write addresses a slot
and all requests are consistent, and the run then has the requested slots filled.
-/
namespace MissionTracking
namespace MissionRun

/-- The slot that a write addresses. -/
def slotOf (r : MissionRun) : IdWrite → Option IdSlot
  | .mission _ => some .mission
  | .task order _ => (r.orderPosition order).map .task
  | .step order step => (r.orderPosition order).bind fun j =>
    (r.inspectionPosition j step.inspectionId).map fun k => .step j k

end MissionRun

def IdSlot.entity : IdSlot → Entity
  | .mission => .missionRun
  | .task _ => .missionTask
  | .step .. => .inspection

def IdWrite.value : IdWrite → Option String
  | .mission id => some id
  | .task _ id => id
  | .step _ ⟨_, x⟩ => some x

namespace MissionRun

def requests (r : MissionRun) (ws : List IdWrite) : List (IdSlot × String) :=
  ws.filterMap fun w => (r.slotOf w).bind fun slot => w.value.map fun x => (slot, x)

variable {r changed : MissionRun}

theorem slotOf_withIds (r : MissionRun) (ids : IdSlot → Option String) (w : IdWrite) :
    (r.withIds ids).slotOf w = r.slotOf w := by
  cases w <;> simp only [slotOf, orderPosition_withIds, inspectionPosition_withIds]

theorem assignOnce_ok_iff {entity : Entity} {slot written : Option String} {x : String} :
    assignOnce entity slot x = .ok written ↔ (∀ e, slot = some e → e = x) ∧ written = some x := by
  cases slot with
  | none => simp [assignOnce, eq_comm]
  | some e =>
    by_cases same : e = x
    · simp [assignOnce, same, eq_comm]
    · simp [assignOnce, same]

theorem assignOnce_error_iff {entity : Entity} {slot : Option String} {x : String}
    {fault : ValidationError} :
    assignOnce entity slot x = .error fault ↔
      ∃ e, slot = some e ∧ e ≠ x ∧ fault = .externalIdAssigned entity e x := by
  cases slot with
  | none => simp [assignOnce]
  | some e =>
    by_cases same : e = x
    · simp [assignOnce, same]
    · simp [assignOnce, same, eq_comm (a := fault)]

section
variable {fits : α → Bool} {missing : ε} {update : α → Except ε α} {as : List α}

theorem updateFirst_of_place {j : Nat} {a : α} (found : as.findIdx? fits = some j)
    (place : as[j]? = some a) : updateFirst fits missing update as = (update a).map (as.set j) := by
  induction as generalizing j with
  | nil => cases found
  | cons b as ih =>
    unfold updateFirst
    rw [List.findIdx?_cons] at found
    cases here : fits b with
    | true =>
      simp only [here, if_true, Option.some.injEq] at found
      subst found
      cases place
      rw [if_pos rfl]
      rfl
    | false =>
      simp only [here, Bool.false_eq_true, if_false, Option.map_eq_some_iff] at found
      obtain ⟨k, found, rfl⟩ := found
      rw [if_neg Bool.false_ne_true, ih found place]
      cases update a <;> rfl

theorem updateFirst_of_missing (nowhere : as.findIdx? fits = none) :
    updateFirst fits missing update as = .error missing := by
  induction as with
  | nil => rfl
  | cons b as ih =>
    unfold updateFirst
    rw [List.findIdx?_cons] at nowhere
    cases here : fits b with
    | true => simp [here] at nowhere
    | false =>
      simp only [here, Bool.false_eq_true, if_false, Option.map_eq_none_iff] at nowhere
      rw [if_neg Bool.false_ne_true, ih nowhere]
      rfl

end

theorem requests_singleton {w : IdWrite} {slot : IdSlot} {x : String}
    (addressed : r.slotOf w = some slot)
    (given : w.value = some x) : r.requests [w] = [(slot, x)] := by
  simp [requests, addressed, given]

theorem exists_task_of_orderPosition {order : UInt32} {j : Nat}
    (found : r.orderPosition order = some j) : ∃ t, r.tasks[j]? = some t := by
  obtain ⟨inside, _⟩ := List.findIdx?_eq_some_iff_getElem.mp found
  exact ⟨_, List.getElem?_eq_getElem inside⟩

section
variable {order : UInt32} {update : MissionTask → Except ValidationError MissionTask}

theorem updateTask_of_place {j : Nat} {t : MissionTask} (found : r.orderPosition order = some j)
    (place : r.tasks[j]? = some t) :
    r.updateTask order update = (update t).map fun t' => { r with tasks := r.tasks.set j t' } := by
  rw [updateTask, updateFirst_of_place found place]
  cases update t <;> rfl

theorem updateTask_of_missing (nowhere : r.orderPosition order = none) :
    r.updateTask order update = .error (.missionRun (.noTask order)) := by
  rw [updateTask, updateFirst_of_missing nowhere]
  rfl

end

section
variable {t : MissionTask} {step : StepId}

theorem assignStep_of_place {k : Nat} {i : Inspection}
    (found : (t.inspections.findIdx? fun i => i.id == step.inspectionId) = some k)
    (place : t.inspections[k]? = some i) :
    t.assignStep step =
      (i.assign step.externalStepId).map fun i' =>
        { t with inspections := t.inspections.set k i' } := by
  rw [MissionTask.assignStep, updateFirst_of_place found place]
  cases i.assign step.externalStepId <;> rfl

theorem assignStep_of_missing
    (nowhere : (t.inspections.findIdx? fun i => i.id == step.inspectionId) = none) :
    t.assignStep step = .error (.missionRun (.noInspection step.inspectionId t.taskOrder)) := by
  rw [MissionTask.assignStep, updateFirst_of_missing nowhere]
  rfl

end

theorem withIds_update_mission (r : MissionRun) (held : Option String) :
    r.withIds (Function.update r.externalIdAt .mission held) =
    { r with externalMissionId := held } := by
  have tasks : (r.withIds (Function.update r.externalIdAt .mission held)).tasks = r.tasks := by
    apply mapIdx_eq_self
    intro j t place
    simpa using withIds_held place
  exact congrArg (fun ts => { r with externalMissionId := held, tasks := ts }) tasks

theorem withIds_update_task {j : Nat} {t : MissionTask} (place : r.tasks[j]? = some t)
    (held : Option String) :
    r.withIds (Function.update r.externalIdAt (.task j) held) =
      { r with tasks := r.tasks.set j { t with externalTaskId := held } } := by
  apply withIds_set place
  · simp [externalIdAt]
  · have own := withIds_held place
    simpa [MissionTask.withIds] using congrArg MissionTask.inspections own
  · intro l other
    simp [other]
  · intro l other k
    simp

theorem withIds_update_step {j k : Nat} {t : MissionTask} {i : Inspection}
    (place : r.tasks[j]? = some t) (step : t.inspections[k]? = some i) (held : Option String) :
    r.withIds (Function.update r.externalIdAt (.step j k) held) =
      { r with tasks := r.tasks.set j { t with
          inspections := t.inspections.set k { i with externalStepId := held } } } := by
  apply withIds_set place
  · simp [externalIdAt]
  · have own : (Function.update r.externalIdAt (.step j k) held) (.task j) = t.externalTaskId := by
      simp [externalIdAt, place]
    have inspections : (t.inspections.mapIdx fun l i =>
        { i with externalStepId := Function.update r.externalIdAt (.step j k) held (.step j l) }) =
        t.inspections.set k { i with externalStepId := held } := by
      apply List.ext_getElem?
      intro l
      rw [List.getElem?_mapIdx, List.getElem?_set]
      by_cases here : k = l
      · subst here
        have inside := (List.getElem?_eq_some_iff.mp step).1
        rw [if_pos rfl, if_pos inside, step, Option.map_some, Function.update_self]
      · have other : IdSlot.step j l ≠ .step j k := by
          intro same
          exact here (IdSlot.step.inj same).2.symm
        rw [if_neg here]
        cases there : t.inspections[l]? with
        | none => rfl
        | some i' => simp [other, externalIdAt, place, there]
    rw [MissionTask.withIds, own, inspections]
  · intro l other
    simp
  · intro l other k'
    simp [other]

/-- A write that asks for a value writes it into the slot that it addresses, once. -/
theorem write_of_value {w : IdWrite} {slot : IdSlot} {x : String}
    (addressed : r.slotOf w = some slot) (given : w.value = some x) :
    r.write w = (assignOnce slot.entity (r.externalIdAt slot) x).map fun held =>
      r.withIds (Function.update r.externalIdAt slot held) := by
  cases w with
  | mission id =>
    cases addressed
    cases given
    simp only [withIds_update_mission]
    rfl
  | task order id =>
    cases given
    obtain ⟨j, found, rfl⟩ := Option.map_eq_some_iff.mp addressed
    obtain ⟨t, place⟩ := exists_task_of_orderPosition found
    have now : r.externalIdAt (.task j) = t.externalTaskId := by simp [externalIdAt, place]
    simp only [withIds_update_task place]
    rw [write, updateTask_of_place found place, now, IdSlot.entity, MissionTask.assign]
    cases assignOnce .missionTask t.externalTaskId x <;> rfl
  | step order step =>
    cases given
    obtain ⟨j, found, addressed⟩ := Option.bind_eq_some_iff.mp addressed
    obtain ⟨k, found', rfl⟩ := Option.map_eq_some_iff.mp addressed
    obtain ⟨t, place⟩ := exists_task_of_orderPosition found
    rw [inspectionPosition, place, Option.bind_some] at found'
    obtain ⟨inside, _⟩ := List.findIdx?_eq_some_iff_getElem.mp found'
    have place' : t.inspections[k]? = some t.inspections[k] := List.getElem?_eq_getElem inside
    have now : r.externalIdAt (.step j k) = t.inspections[k].externalStepId := by
      simp [externalIdAt, place, place']
    simp only [withIds_update_step place place']
    rw [write, updateTask_of_place found place, assignStep_of_place found' place', now,
      IdSlot.entity, Inspection.assign]
    cases assignOnce .inspection t.inspections[k].externalStepId step.externalStepId <;> rfl

theorem write_ok_iff_of_value {w : IdWrite} {slot : IdSlot} {x : String}
    (addressed : r.slotOf w = some slot) (given : w.value = some x) :
    r.write w = .ok changed ↔ (∀ e, r.externalIdAt slot = some e → e = x) ∧
      r.withIds (Function.update r.externalIdAt slot (some x)) = changed := by
  rw [write_of_value addressed given, map_ok_iff]
  simp only [assignOnce_ok_iff, and_assoc, exists_and_left, exists_eq_left]

theorem write_error_iff_of_value {w : IdWrite} {slot : IdSlot} {x : String}
    {fault : ValidationError} (addressed : r.slotOf w = some slot) (given : w.value = some x) :
    r.write w = .error fault ↔
      ∃ e, r.externalIdAt slot = some e ∧ e ≠ x ∧ fault = .externalIdAssigned slot.entity e x := by
  rw [write_of_value addressed given, map_error_iff, assignOnce_error_iff]

theorem write_of_no_value {w : IdWrite} {slot : IdSlot} (addressed : r.slotOf w = some slot)
    (nothing : w.value = none) : r.write w = .ok r := by
  cases w with
  | mission id => cases nothing
  | task order id =>
    cases nothing
    obtain ⟨j, found, rfl⟩ := Option.map_eq_some_iff.mp addressed
    obtain ⟨t, place⟩ := exists_task_of_orderPosition found
    have same : r.tasks.set j t = r.tasks := by
      obtain ⟨inside, rfl⟩ := List.getElem?_eq_some_iff.mp place
      exact List.set_getElem_self inside
    rw [write, updateTask_of_place found place, MissionTask.assign, Except.map, same]
  | step order step => cases nothing

theorem not_write_ok {w : IdWrite} (missing : r.slotOf w = none) : ¬ r.write w = .ok changed := by
  cases w with
  | mission id => cases missing
  | task order id =>
    rw [write, updateTask_of_missing (Option.map_eq_none_iff.mp missing)]
    exact nofun
  | step order step =>
    cases found : r.orderPosition order with
    | none =>
      rw [write, updateTask_of_missing found]
      exact nofun
    | some j =>
      obtain ⟨t, place⟩ := exists_task_of_orderPosition found
      rw [slotOf, found, Option.bind_some, Option.map_eq_none_iff, inspectionPosition, place,
        Option.bind_some] at missing
      rw [write, updateTask_of_place found place, assignStep_of_missing missing]
      exact nofun

theorem write_ok_iff {w : IdWrite} :
    r.write w = .ok changed ↔
    (r.slotOf w).isSome = true ∧ Consistent r.externalIdAt (r.requests [w]) ∧
      r.withIds (filling r.externalIdAt (r.requests [w])) = changed := by
  cases addressed : r.slotOf w with
  | none => simp [not_write_ok addressed]
  | some slot =>
    rw [Option.isSome_some, eq_self, true_and]
    cases given : w.value with
    | none =>
      have asked : r.requests [w] = [] := by simp [requests, given]
      have own : r.withIds (filling r.externalIdAt []) = r := r.withIds_own
      have trivially : Consistent r.externalIdAt [] := ⟨by simp, by simp⟩
      rw [write_of_no_value addressed given, asked, own, and_iff_right trivially, Except.ok.injEq]
    | some x =>
      rw [write_ok_iff_of_value addressed given, requests_singleton addressed given,
        consistent_singleton, filling_singleton]

theorem hasSlot_of_slotOf {w : IdWrite} {slot : IdSlot} (addressed : r.slotOf w = some slot) :
    r.HasSlot slot := by
  cases w with
  | mission id =>
    cases addressed
    trivial
  | task order id =>
    obtain ⟨j, found, rfl⟩ := Option.map_eq_some_iff.mp addressed
    exact exists_task_of_orderPosition found
  | step order step =>
    obtain ⟨j, found, addressed⟩ := Option.bind_eq_some_iff.mp addressed
    obtain ⟨k, found', rfl⟩ := Option.map_eq_some_iff.mp addressed
    obtain ⟨t, place, found'⟩ := Option.bind_eq_some_iff.mp found'
    obtain ⟨inside, _⟩ := List.findIdx?_eq_some_iff_getElem.mp found'
    exact ⟨t, _, place, List.getElem?_eq_getElem inside⟩

theorem mem_requests {ws : List IdWrite} {slot : IdSlot} {x : String} :
    (slot, x) ∈ r.requests ws ↔ ∃ w ∈ ws, r.slotOf w = some slot ∧ w.value = some x := by
  simp only [requests, List.mem_filterMap, Option.bind_eq_some_iff, Option.map_eq_some_iff,
    Prod.mk.injEq]
  constructor
  · rintro ⟨w, member, _, addressed, _, given, rfl, rfl⟩
    exact ⟨w, member, addressed, given⟩
  · rintro ⟨w, member, addressed, given⟩
    exact ⟨w, member, slot, addressed, x, given, rfl, rfl⟩

theorem externalIdAt_filling (r : MissionRun) (ws : List IdWrite) :
    (r.withIds (filling r.externalIdAt (r.requests ws))).externalIdAt =
    filling r.externalIdAt (r.requests ws) := by
  apply externalIdAt_withIds
  intro slot e filled
  by_cases asked : ∃ x, (slot, x) ∈ r.requests ws
  · obtain ⟨x, hx⟩ := asked
    obtain ⟨w, _, addressed, _⟩ := mem_requests.mp hx
    exact hasSlot_of_slotOf addressed
  · rw [filling_of_not_mem fun x hx => asked ⟨x, hx⟩] at filled
    exact hasSlot_of_held filled

/-- Whether writes are carried out to the end, and what they leave, is told by the slots that they
address and the values that they ask for. Their order is not seen. -/
theorem writeAll_ok_iff {ws : List IdWrite} :
    r.writeAll ws = (changed, .ok ()) ↔ (∀ w ∈ ws, (r.slotOf w).isSome = true) ∧
      Consistent r.externalIdAt (r.requests ws) ∧
      r.withIds (filling r.externalIdAt (r.requests ws)) = changed := by
  induction ws generalizing r with
  | nil =>
    have own : r.withIds (filling r.externalIdAt (r.requests [])) = r := r.withIds_own
    have trivially : Consistent r.externalIdAt (r.requests []) :=
      ⟨by simp [requests], by simp [requests]⟩
    rw [own, and_iff_right trivially]
    simp [writeAll]
  | cons w ws ih =>
    have parts : r.requests (w :: ws) = r.requests [w] ++ r.requests ws := by
      rw [requests, requests, requests, ← List.filterMap_append, List.singleton_append]
    rw [parts, Consistent.append_iff, List.forall_mem_cons]
    cases done : r.write w with
    | error fault =>
      have refused : r.writeAll (w :: ws) = (r, .error fault) := by simp only [writeAll, done]
      rw [refused]
      constructor
      · intro ended
        cases ended
      · rintro ⟨⟨addressed, _⟩, ⟨first, _⟩, _⟩
        cases done.symm.trans (write_ok_iff.mpr ⟨addressed, first, rfl⟩)
    | ok next =>
      obtain ⟨addressed, first, rfl⟩ := write_ok_iff.mp done
      have carried : r.writeAll (w :: ws) =
          (r.withIds (filling r.externalIdAt (r.requests [w]))).writeAll ws := by
        simp only [writeAll, done]
      have asked :
          (r.withIds (filling r.externalIdAt (r.requests [w]))).requests ws = r.requests ws := by
        simp only [requests, slotOf_withIds]
      rw [carried, ih, asked, externalIdAt_filling, withIds_withIds]
      simp only [slotOf_withIds, addressed, first, true_and]
      constructor
      · rintro ⟨addresses, second, same⟩
        refine ⟨addresses, second, ?_⟩
        rw [(Consistent.append_iff.mpr ⟨first, second⟩).filling_append, same]
      · rintro ⟨addresses, second, same⟩
        refine ⟨addresses, second, ?_⟩
        rw [← (Consistent.append_iff.mpr ⟨first, second⟩).filling_append, same]

theorem writeAll_error {ws : List IdWrite} {left : MissionRun} {fault : ValidationError}
    (refused : r.writeAll ws = (left, .error fault)) :
    ∃ done w rest next, ws = done ++ w :: rest ∧ r.writeAll done = (next, .ok ()) ∧
    next.write w = .error fault := by
  induction ws generalizing r with
  | nil => cases refused
  | cons w ws ih =>
    cases written : r.write w with
    | error fault' =>
      simp only [writeAll, written] at refused
      cases refused
      exact ⟨[], w, ws, _, rfl, rfl, written⟩
    | ok next =>
      simp only [writeAll, written] at refused
      obtain ⟨done, v, rest, last, rfl, carried, stopped⟩ := ih refused
      exact ⟨w :: done, v, rest, last, rfl, by simp only [writeAll, written, carried], stopped⟩

/-- Writes that all address slots are refused only where two values meet in one slot. The refusal
names both: the one that the slot holds, or was given by an earlier write, and the one that it is
asked for. -/
theorem exists_clash_of_refused {ws : List IdWrite} {left : MissionRun} {fault : ValidationError}
    (addresses : ∀ w ∈ ws, (r.slotOf w).isSome = true)
    (refused : r.writeAll ws = (left, .error fault)) :
    ∃ slot x e, (slot, x) ∈ r.requests ws ∧
    (r.externalIdAt slot = some e ∨ (slot, e) ∈ r.requests ws) ∧ e ≠ x ∧
      fault = .externalIdAssigned slot.entity e x := by
  obtain ⟨done, w, rest, next, rfl, carried, stopped⟩ := writeAll_error refused
  obtain ⟨_, consistent, rfl⟩ := writeAll_ok_iff.mp carried
  have member : w ∈ done ++ w :: rest := List.mem_append_right _ List.mem_cons_self
  obtain ⟨slot, addressed⟩ := Option.isSome_iff_exists.mp (addresses w member)
  have addressed' := (slotOf_withIds r (filling r.externalIdAt (r.requests done)) w).trans addressed
  cases given : w.value with
  | none =>
    rw [write_of_no_value addressed' given] at stopped
    cases stopped
  | some x =>
    obtain ⟨e, now, other, rfl⟩ := (write_error_iff_of_value addressed' given).mp stopped
    rw [externalIdAt_filling] at now
    refine ⟨slot, x, e, mem_requests.mpr ⟨w, member, addressed, given⟩, ?_, other, rfl⟩
    by_cases asked : ∃ y, (slot, y) ∈ r.requests done
    · obtain ⟨y, asked⟩ := asked
      rw [consistent.filling_of_mem asked] at now
      cases now
      obtain ⟨v, earlier, asks⟩ := mem_requests.mp asked
      exact .inr (mem_requests.mpr ⟨v, List.mem_append_left _ earlier, asks⟩)
    · rw [filling_of_not_mem fun y asks => asked ⟨y, asks⟩] at now
      exact .inl now

end MissionRun
end MissionTracking
