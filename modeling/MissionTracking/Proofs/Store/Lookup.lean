import MissionTracking.Store
import MissionTracking.Proofs.Refusal
import Std.Data.ExtTreeMap.Lemmas
import Mathlib.Logic.Basic

/-!
The operations of a store are described by what can be looked up afterwards: the runs by their ids,
the index by the external mission ids. Nothing here needs the two maps to agree.
-/
namespace MissionTracking
open Std

theorem values_eq_map_toList {cmp : κ → κ → Ordering} [TransCmp cmp] (t : ExtTreeMap κ β cmp) :
    t.values = t.toList.map Prod.snd := by
  obtain ⟨⟨q⟩⟩ := t
  induction q using Quotient.inductionOn with
  | h m =>
    change m.inner.values = (DTreeMap.Internal.Impl.Const.toList m.inner).map Prod.snd
    rw [DTreeMap.Internal.Impl.values_eq_map_snd,
      DTreeMap.Internal.Impl.Const.toList_eq_toListModel_map, List.map_map]
    rfl

namespace Store

theorem find?_put (s : Store) (id : String) (r : MissionRun) (q : String) :
    (s.put id r).find? q = if id = q then some r else s.find? q := by
  simp only [find?, put, ExtTreeMap.getElem?_insert, LawfulEqOrd.compare_eq_iff_eq]

@[simp] theorem index_put (s : Store) (id : String) (r : MissionRun) :
    (s.put id r).index = s.index := rfl

@[simp] theorem find?_indexRun (s : Store) (r : MissionRun) (q : String) :
    (s.indexRun r).find? q = s.find? q := by
  unfold indexRun
  cases r.externalMissionId <;> rfl

@[simp] theorem find?_unindexRun (s : Store) (r : MissionRun) (q : String) :
    (s.unindexRun r).find? q = s.find? q := by
  unfold unindexRun
  cases r.externalMissionId <;> rfl

theorem index_indexRun (s : Store) (r : MissionRun) (e : String) :
    (s.indexRun r).index[e]? = if r.externalMissionId = some e then some r.id else s.index[e]? := by
  unfold indexRun
  cases held : r.externalMissionId with
  | none => simp only [reduceCtorEq, if_false]
  | some f =>
    simp only [ExtTreeMap.getElem?_insert, LawfulEqOrd.compare_eq_iff_eq, Option.some.injEq]

theorem index_unindexRun (s : Store) (r : MissionRun) (e : String) :
    (s.unindexRun r).index[e]? = if r.externalMissionId = some e then none else s.index[e]? := by
  unfold unindexRun
  cases held : r.externalMissionId with
  | none => simp only [reduceCtorEq, if_false]
  | some f =>
    simp only [ExtTreeMap.getElem?_erase, LawfulEqOrd.compare_eq_iff_eq, Option.some.injEq]

theorem eq_of_lookups {s t : Store} (runs : ∀ id, s.find? id = t.find? id)
    (index : ∀ e : String, s.index[e]? = t.index[e]?) : s = t :=
  congrArg₂ Store.mk (ExtTreeMap.ext_getElem? fun {id} => runs id)
    (ExtTreeMap.ext_getElem? fun {e} => index e)

theorem indexRun_unindexRun (s : Store) (r : MissionRun) :
    (s.unindexRun r).indexRun r = s.indexRun r := by
  refine eq_of_lookups (fun id => ?_) fun e => ?_
  · rw [find?_indexRun, find?_indexRun, find?_unindexRun]
  · rw [index_indexRun, index_indexRun, index_unindexRun]
    split <;> rfl

theorem mem_iff_find?_isSome (s : Store) (id : String) : id ∈ s.runs ↔ (s.find? id).isSome = true :=
  ExtTreeMap.mem_iff_isSome_getElem?

theorem mem_toList (s : Store) (r : MissionRun) : r ∈ s.toList ↔ ∃ id, s.find? id = some r := by
  unfold toList
  rw [values_eq_map_toList, List.mem_map]
  constructor
  · rintro ⟨⟨id, q⟩, member, rfl⟩
    exact ⟨id, ExtTreeMap.mem_toList_iff_getElem?_eq_some.mp member⟩
  · rintro ⟨id, found⟩
    exact ⟨(id, r), ExtTreeMap.mem_toList_iff_getElem?_eq_some.mpr found, rfl⟩

theorem create_ok {s next : Store} {r : MissionRun} (done : s.create r = .ok next) :
    s.find? r.id = none ∧ (∀ e, r.externalMissionId = some e → s.index[e]? = none) ∧
      next = (s.indexRun r).put r.id r := by
  unfold create at done
  split at done
  · cases done
  · rename_i fresh
    rw [mem_iff_find?_isSome, Option.not_isSome_iff_eq_none] at fresh
    split at done
    · cases done
    · rename_i free
      cases done
      refine ⟨fresh, ?_, rfl⟩
      intro e held
      have absent : e ∉ s.index := by
        intro present
        simp only [held, Option.filter_some, present, decide_true, if_true, reduceCtorEq] at free
      exact ExtTreeMap.getElem?_eq_none absent

theorem delete_some {s next : Store} {id : String} {r : MissionRun}
    (done : s.delete id = some (next, r)) :
    s.find? id = some r ∧ next = { s with runs := s.runs.erase id }.unindexRun r := by
  unfold delete at done
  obtain ⟨q, found, pair⟩ := Option.map_eq_some_iff.mp done
  cases pair
  exact ⟨found, rfl⟩

theorem assign_ok {s next : Store} {id : String} {a : Assignment} {changed : MissionRun}
    (done : s.assign id a = .ok (some (next, changed))) :
    ∃ r, s.find? id = some r ∧ a.applied r = .ok changed ∧
      (∀ e owner, changed.externalMissionId = some e → s.index[e]? = some owner → owner = id) ∧
      next = (s.indexRun changed).put id changed := by
  unfold assign at done
  cases found : s.find? id with
  | none => simp [found] at done
  | some r =>
    simp only [found] at done
    obtain ⟨new, applied, done⟩ := bind_ok_iff.mp done
    split at done
    · cases done
    · rename_i free
      cases done
      refine ⟨r, rfl, applied, ?_, rfl⟩
      intro e owner held entry
      rw [held] at free
      simpa [Option.filter_some, isTaken, entry] using free

theorem mutate_some {s next : Store} {e : String} {change : MissionRun → Mutation α}
    {changed : MissionRun} {answer : α} (done : s.mutate e change = some (next, changed, answer)) :
    ∃ id r, s.resolve? e = some (id, r) ∧
      ((change r = .commit changed answer ∧ next = (s.indexRun changed).put id changed) ∨
        (change r = .discard answer ∧ changed = r ∧ next = s)) := by
  unfold mutate at done
  obtain ⟨⟨id, r⟩, resolved, outcome⟩ := Option.map_eq_some_iff.mp done
  refine ⟨id, r, resolved, ?_⟩
  dsimp only at outcome
  split at outcome
  · rename_i decided
    cases outcome
    exact .inl ⟨decided, by rw [indexRun_unindexRun]⟩
  · rename_i decided
    cases outcome
    exact .inr ⟨decided, rfl, rfl⟩

theorem resolve?_find {s : Store} {e id : String} {r : MissionRun}
    (resolved : s.resolve? e = some (id, r)) : s.find? id = some r := by
  simp only [resolve?, Option.bind_eq_bind, Option.bind_eq_some_iff, Option.some.injEq,
    Prod.mk.injEq] at resolved
  obtain ⟨_, _, _, found, rfl, rfl⟩ := resolved
  exact found

theorem find?_create {s next : Store} {r : MissionRun} (done : s.create r = .ok next) (q : String) :
    next.find? q = if r.id = q then some r else s.find? q := by
  obtain ⟨_, _, rfl⟩ := create_ok done
  rw [find?_put, find?_indexRun]

theorem find?_delete {s next : Store} {id : String} {r : MissionRun}
    (done : s.delete id = some (next, r))
    (q : String) : next.find? q = if id = q then none else s.find? q := by
  obtain ⟨_, rfl⟩ := delete_some done
  rw [find?_unindexRun]
  simp only [find?, ExtTreeMap.getElem?_erase, LawfulEqOrd.compare_eq_iff_eq]

theorem find?_assign {s next : Store} {id : String} {a : Assignment} {changed : MissionRun}
    (done : s.assign id a = .ok (some (next, changed))) (q : String) :
    next.find? q = if id = q then some changed else s.find? q := by
  obtain ⟨_, _, _, _, rfl⟩ := assign_ok done
  rw [find?_put, find?_indexRun]

theorem find?_mutate {s next : Store} {e : String} {change : MissionRun → Mutation α}
    {changed : MissionRun} {answer : α} (done : s.mutate e change = some (next, changed, answer)) :
    ∃ id r, s.resolve? e = some (id, r) ∧
    ∀ q, next.find? q = if id = q then some changed else s.find? q := by
  obtain ⟨id, r, resolved, ⟨_, rfl⟩ | ⟨_, rfl, rfl⟩⟩ := mutate_some done
  · refine ⟨id, r, resolved, ?_⟩
    intro q
    rw [find?_put, find?_indexRun]
  · refine ⟨id, changed, resolved, ?_⟩
    intro q
    split
    · rename_i here
      rw [← here]
      exact resolve?_find resolved
    · rfl

/-- Once its run is deleted an external id is free: the index has lost it, and another run can be
created with it. -/
theorem freed_of_delete {s next : Store} {id e : String} {r : MissionRun}
    (done : s.delete id = some (next, r)) (held : r.externalMissionId = some e) :
    next.index[e]? = none ∧
      ∀ fresh : MissionRun, fresh.externalMissionId = some e → next.find? fresh.id = none →
        ∃ last, next.create fresh = .ok last := by
  have gone : next.index[e]? = none := by
    obtain ⟨_, removed⟩ := delete_some done
    rw [removed, index_unindexRun, if_pos held]
  refine ⟨gone, ?_⟩
  intro fresh held' absent
  have unused : fresh.id ∉ next.runs := by
    rw [mem_iff_find?_isSome, absent]
    exact Bool.false_ne_true
  have free : e ∉ next.index := by
    rw [ExtTreeMap.mem_iff_isSome_getElem?, gone]
    exact Bool.false_ne_true
  refine ⟨(next.indexRun fresh).put fresh.id fresh, ?_⟩
  simp only [create, unused, if_false, held', Option.filter_some, free, decide_false,
    Bool.false_eq_true]

end Store
end MissionTracking
