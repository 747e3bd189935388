import MissionTracking.Proofs.Run.Writing

/-!
Assignments one after the other. Writes that are carried out can be carried out again, in another
order and in parts, because only the slots that they address and the values that they ask for are
seen. The check at the end does not tell parts from the whole either: a run whose slots are not all
filled yet repeats no id that the filled run does not repeat.
-/
namespace MissionTracking

section
variable {held : IdSlot → Option String} {requests others : List (IdSlot × String)}

theorem Consistent.mono (consistent : Consistent held others) (among : requests ⊆ others) :
    Consistent held requests :=
  ⟨fun slot x y hx hy => consistent.agree slot x y (among hx) (among hy),
    fun slot x e hx => consistent.held slot x e (among hx)⟩

theorem Consistent.filling_congr (consistent : Consistent held requests)
    (same : ∀ request, request ∈ requests ↔ request ∈ others) :
    filling held requests = filling held others := by
  have consistent' : Consistent held others := consistent.mono fun request => (same request).mpr
  funext slot
  by_cases asked : ∃ x, (slot, x) ∈ requests
  · obtain ⟨x, hx⟩ := asked
    rw [consistent.filling_of_mem hx, consistent'.filling_of_mem ((same _).mp hx)]
  · rw [filling_of_not_mem fun x hx => asked ⟨x, hx⟩,
      filling_of_not_mem fun x hx => asked ⟨x, (same _).mpr hx⟩]

end

namespace MissionRun
variable {r changed : MissionRun} {ws vs : List IdWrite}

theorem writeAll_ok_of_same (same : ∀ w, w ∈ ws ↔ w ∈ vs)
    (done : r.writeAll ws = (changed, .ok ())) : r.writeAll vs = (changed, .ok ()) := by
  obtain ⟨addressed, consistent, rfl⟩ := writeAll_ok_iff.mp done
  have asked : ∀ request, request ∈ r.requests ws ↔ request ∈ r.requests vs := by
    rintro ⟨slot, x⟩
    simp only [mem_requests, same]
  refine writeAll_ok_iff.mpr ⟨fun w member => addressed w ((same w).mpr member), ?_, ?_⟩
  · exact consistent.mono fun request => (asked request).mpr
  · rw [consistent.filling_congr asked]

theorem writeAll_append_ok_iff :
    r.writeAll (ws ++ vs) = (changed, .ok ()) ↔
      ∃ next, r.writeAll ws = (next, .ok ()) ∧ next.writeAll vs = (changed, .ok ()) := by
  induction ws generalizing r with
  | nil => simp [writeAll]
  | cons w ws ih =>
    simp only [List.cons_append, writeAll]
    cases r.write w with
    | error fault => simp
    | ok next => exact ih

theorem writeAll_again (done : r.writeAll ws = (changed, .ok ())) :
    changed.writeAll ws = (changed, .ok ()) := by
  have twice : r.writeAll (ws ++ ws) = (changed, .ok ()) := writeAll_ok_of_same (by simp) done
  obtain ⟨next, first, second⟩ := writeAll_append_ok_iff.mp twice
  cases done.symm.trans first
  exact second

theorem filterMap_sublist_of_forall₂ {R : α → β → Prop} {f : α → Option γ} {g : β → Option γ}
    (held : ∀ {a b c}, R a b → f a = some c → g b = some c) {as : List α} {bs : List β}
    (all : List.Forall₂ R as bs) : (as.filterMap f).Sublist (bs.filterMap g) := by
  induction all with
  | nil => exact .slnil
  | @cons a b as bs head _ ih =>
    have rest : (bs.filterMap g).Sublist ((b :: bs).filterMap g) :=
      (List.sublist_cons_self b bs).filterMap g
    cases given : f a with
    | none =>
      rw [List.filterMap_cons_none given]
      exact ih.trans rest
    | some c =>
      rw [List.filterMap_cons_some given, List.filterMap_cons_some (held head given)]
      exact ih.cons_cons c

theorem Retains.checkExternalIds (kept : r.Retains changed)
    (checked : changed.checkExternalIds = .ok ()) : r.checkExternalIds = .ok () := by
  rw [checkExternalIds_ok, externalIdFault_eq_none_iff] at checked ⊢
  obtain ⟨taskIds, _, stepIds⟩ := checked
  have fewer := filterMap_sublist_of_forall₂ (fun task => task.held) kept.tasks
  refine ⟨fewer.nodup taskIds, fun e _ => List.not_mem_nil, ?_⟩
  intro t stored
  obtain ⟨j, place⟩ := List.mem_iff_getElem?.mp stored
  obtain ⟨t', place', task⟩ := forall₂_getElem? kept.tasks place
  have fewer := filterMap_sublist_of_forall₂ (fun inspection => inspection.held) task.inspections
  exact fewer.nodup (stepIds t' (List.mem_of_getElem? place'))

end MissionRun

/-- The same entries in another order, each with the same steps in another order. -/
def Reordered (ts ts' : List TaskIds) : Prop :=
  ∃ ordered, ts.Perm ordered ∧ List.Forall₂ (fun ids ids' => ids'.taskOrder = ids.taskOrder ∧
    ids'.externalTaskId = ids.externalTaskId ∧ ids.steps.Perm ids'.steps) ordered ts'

namespace Assignment
variable {a b : Assignment} {r changed : MissionRun} {m : Option String} {ts ts' : List TaskIds}

theorem apply_again (done : a.apply r = (changed, .ok ())) :
    a.apply changed = (changed, .ok ()) := by
  obtain ⟨written, checked⟩ := apply_ok_iff.mp done
  exact apply_ok_iff.mpr ⟨MissionRun.writeAll_again written, checked⟩

theorem apply_ok_of_perm (same : a.writes.Perm b.writes) (done : a.apply r = (changed, .ok ())) :
    b.apply r = (changed, .ok ()) := by
  obtain ⟨written, checked⟩ := apply_ok_iff.mp done
  exact apply_ok_iff.mpr ⟨MissionRun.writeAll_ok_of_same (fun _ => same.mem_iff) written, checked⟩

theorem writes_perm (reordered : Reordered ts ts') : (mk m ts).writes.Perm (mk m ts').writes := by
  obtain ⟨ordered, entries, steps⟩ := reordered
  have inside : (ordered.flatMap TaskIds.writes).Perm (ts'.flatMap TaskIds.writes) := by
    clear entries
    induction steps with
    | nil => exact .refl _
    | @cons ids ids' _ _ alike _ ih =>
      obtain ⟨order, id, steps⟩ := alike
      have head : ids.writes.Perm ids'.writes := by
        rw [TaskIds.writes, TaskIds.writes, order, id]
        exact (steps.map _).cons _
      simp only [List.flatMap_cons]
      exact head.append ih
  exact ((entries.flatMap_right _).trans inside).append_left _

theorem writes_append (m : Option String) (ts₁ ts₂ : List TaskIds) :
    (mk m (ts₁ ++ ts₂)).writes = (mk m ts₁).writes ++ (mk none ts₂).writes := by
  simp only [writes, List.flatMap_append, Option.map_none, Option.toList_none, List.nil_append,
    List.append_assoc]

theorem apply_append (m : Option String) (ts₁ ts₂ : List TaskIds) :
    (mk m (ts₁ ++ ts₂)).apply r = (changed, .ok ()) ↔
      ∃ next, (mk m ts₁).apply r = (next, .ok ()) ∧
      (mk none ts₂).apply next = (changed, .ok ()) := by
  simp only [apply_ok_iff, writes_append, MissionRun.writeAll_append_ok_iff]
  constructor
  · rintro ⟨⟨next, first, second⟩, checked⟩
    -- the run in between is checked here and was not there
    have kept := next.writeAll_retains (mk none ts₂).writes
    rw [second] at kept
    exact ⟨next, ⟨first, kept.checkExternalIds checked⟩, second, checked⟩
  · rintro ⟨next, ⟨first, _⟩, second, checked⟩
    exact ⟨⟨next, first, second⟩, checked⟩

/-- An assignment that was made can be made again and changes nothing. In which order its entries
and their steps come is not seen. And it can be made in two parts, the id of the mission with the
first, exactly when it can be made at once, and with the same result. -/
theorem apply_composes (r : MissionRun) (m : Option String) :
    (∀ ts changed,
      (mk m ts).apply r = (changed, .ok ()) → (mk m ts).apply changed = (changed, .ok ())) ∧
    (∀ ts ts', Reordered ts ts' → ∀ changed,
      (mk m ts).apply r = (changed, .ok ()) ↔ (mk m ts').apply r = (changed, .ok ())) ∧
    ∀ ts₁ ts₂ changed, (mk m (ts₁ ++ ts₂)).apply r = (changed, .ok ()) ↔
      ∃ next, (mk m ts₁).apply r = (next, .ok ()) ∧
      (mk none ts₂).apply next = (changed, .ok ()) := by
  refine ⟨fun ts changed => apply_again, ?_, fun ts₁ ts₂ changed => apply_append m ts₁ ts₂⟩
  intro ts ts' reordered changed
  have same : (mk m ts).writes.Perm (mk m ts').writes := writes_perm reordered
  exact ⟨apply_ok_of_perm same, apply_ok_of_perm same.symm⟩

def unnamedPair : MissionRun :=
  ((MissionRun.plain "run").withTask (((MissionTask.fresh "first" 1).withInspection
    (Inspection.fresh "front" .image)).withInspection (Inspection.fresh "back" .image))).withTask
      (MissionTask.fresh "second" 2)

theorem apply_composes_unnamedPair :
    ∃ changed, (mk (some "deck") [⟨1, some "valves", [⟨"front", "photo"⟩, ⟨"back", "detail"⟩]⟩,
        ⟨2, some "pumps", []⟩]).apply unnamedPair = (changed, .ok ()) ∧
      (mk (some "deck") [⟨1, some "valves", [⟨"front", "photo"⟩, ⟨"back", "detail"⟩]⟩,
        ⟨2, some "pumps", []⟩]).apply changed = (changed, .ok ()) ∧
      (mk (some "deck") [⟨2, some "pumps", []⟩,
        ⟨1, some "valves", [⟨"back", "detail"⟩, ⟨"front", "photo"⟩]⟩]).apply unnamedPair =
        (changed, .ok ()) ∧
      ∃ next, (mk (some "deck") [⟨1, some "valves",
        [⟨"front", "photo"⟩, ⟨"back", "detail"⟩]⟩]).apply unnamedPair =
          (next, .ok ()) ∧
        (mk none [⟨2, some "pumps", []⟩]).apply next = (changed, .ok ()) := by
  obtain ⟨again, orders, parts⟩ := apply_composes unnamedPair (some "deck")
  obtain ⟨changed, done⟩ :
      ∃ changed, (mk (some "deck") [⟨1, some "valves", [⟨"front", "photo"⟩, ⟨"back", "detail"⟩]⟩,
      ⟨2, some "pumps", []⟩]).apply unnamedPair = (changed, .ok ()) := ⟨_, rfl⟩
  have reordered : Reordered
      [⟨1, some "valves", [⟨"front", "photo"⟩, ⟨"back", "detail"⟩]⟩, ⟨2, some "pumps", []⟩]
      [⟨2, some "pumps", []⟩, ⟨1, some "valves", [⟨"back", "detail"⟩, ⟨"front", "photo"⟩]⟩] :=
    ⟨_, .swap _ _ [], .cons ⟨rfl, rfl, .refl _⟩ (.cons ⟨rfl, rfl, .swap _ _ []⟩ .nil)⟩
  exact ⟨changed, done, again _ _ done, (orders _ _ reordered _).mp done, (parts _ _ _).mp done⟩

end Assignment
end MissionTracking
