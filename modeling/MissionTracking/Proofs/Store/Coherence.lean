import MissionTracking.Proofs.Run.Identity
import MissionTracking.Proofs.Store.Lookup
import Mathlib.Data.List.Nodup

/-!
The two maps of a store agree: every run is stored under its own id, and the index names for each
external mission id the one stored run that carries it and has no other entry. Each operation keeps
the agreement.
-/
namespace MissionTracking
open Std

namespace Store

def Carries (s : Store) (id e : String) : Prop :=
  ∃ r, s.find? id = some r ∧ r.externalMissionId = some e

/-- The index names, for each external mission id, the stored run that carries it, and nothing
else. -/
structure Coherent (s : Store) : Prop where
  keyed : ∀ {id : String} {r : MissionRun}, s.find? id = some r → r.id = id
  indexed : ∀ {e id : String}, s.index[e]? = some id ↔ s.Carries id e

namespace Coherent
variable {s : Store}

theorem empty : Coherent .empty where
  keyed found := by simp [find?, Store.empty] at found
  indexed := by simp [Carries, find?, Store.empty]

theorem mem_toList_iff (h : s.Coherent) (r : MissionRun) :
    r ∈ s.toList ↔ s.find? r.id = some r := by
  rw [mem_toList]
  constructor
  · rintro ⟨id, found⟩
    rwa [h.keyed found]
  · intro found
    exact ⟨r.id, found⟩

theorem nodup_ids (h : s.Coherent) : (s.toList.map MissionRun.id).Nodup := by
  have keys : s.toList.map MissionRun.id = s.runs.keys := by
    unfold toList
    rw [values_eq_map_toList, List.map_map, ← ExtTreeMap.map_fst_toList_eq_keys]
    apply List.map_congr_left
    rintro ⟨id, r⟩ member
    exact h.keyed (ExtTreeMap.mem_toList_iff_getElem?_eq_some.mp member)
  rw [keys]
  exact ExtTreeMap.nodup_keys

theorem carrier_unique (h : s.Coherent) {id id' e : String} {r r' : MissionRun}
    (found : s.find? id = some r)
    (found' : s.find? id' = some r') (held : r.externalMissionId = some e)
    (held' : r'.externalMissionId = some e) : id = id' := by
  have entry := h.indexed.mpr ⟨r, found, held⟩
  have entry' := h.indexed.mpr ⟨r', found', held'⟩
  exact Option.some.inj (entry.symm.trans entry')

theorem nodup_externalMissionIds (h : s.Coherent) :
    (s.toList.filterMap MissionRun.externalMissionId).Nodup := by
  have runs : s.toList.Nodup := h.nodup_ids.of_map
  rw [List.Nodup, List.pairwise_filterMap]
  refine runs.imp_of_mem ?_
  intro r q stored stored' other e held f held' same
  rw [h.mem_toList_iff] at stored stored'
  subst same
  have shared := h.carrier_unique stored stored' held held'
  rw [shared, stored'] at stored
  exact other (Option.some.inj stored).symm

theorem resolve?_eq_some_iff (h : s.Coherent) {e id : String} {r : MissionRun} :
    s.resolve? e = some (id, r) ↔ s.find? id = some r ∧ r.externalMissionId = some e := by
  simp only [resolve?, Option.bind_eq_bind, Option.bind_eq_some_iff, Option.some.injEq,
    Prod.mk.injEq]
  constructor
  · rintro ⟨id', entry, r', found, rfl, rfl⟩
    obtain ⟨q, found', held⟩ := h.indexed.mp entry
    cases found.symm.trans found'
    exact ⟨found, held⟩
  · rintro ⟨found, held⟩
    exact ⟨id, h.indexed.mpr ⟨r, found, held⟩, r, found, rfl, rfl⟩

theorem resolve?_eq_none_iff (h : s.Coherent) {e : String} :
    s.resolve? e = none ↔ ∀ id r, s.find? id = some r → r.externalMissionId ≠ some e := by
  rw [Option.eq_none_iff_forall_ne_some]
  constructor
  · intro missing id r found held
    exact missing (id, r) (h.resolve?_eq_some_iff.mpr ⟨found, held⟩)
  · rintro absent ⟨id, r⟩ resolved
    obtain ⟨found, held⟩ := h.resolve?_eq_some_iff.mp resolved
    exact absent id r found held

theorem write (h : s.Coherent) {r : MissionRun}
    (kept : ∀ q e,
      s.find? r.id = some q → q.externalMissionId = some e → r.externalMissionId = some e)
    (free : ∀ e id, r.externalMissionId = some e → s.index[e]? = some id → id = r.id) :
    Coherent ((s.indexRun r).put r.id r) where
  keyed {id q} found := by
    rw [find?_put, find?_indexRun] at found
    split at found
    · rename_i here
      cases found
      exact here
    · exact h.keyed found
  indexed {e id} := by
    rw [index_put, index_indexRun]
    simp only [Carries, find?_put, find?_indexRun]
    by_cases held : r.externalMissionId = some e
    · simp only [held, if_true, Option.some.injEq]
      constructor
      · rintro rfl
        exact ⟨r, if_pos rfl, held⟩
      · rintro ⟨q, found, held'⟩
        split at found
        · assumption
        · exact (free e id held (h.indexed.mpr ⟨q, found, held'⟩)).symm
    · simp only [held, if_false]
      by_cases here : r.id = id
      · subst here
        simp only [if_true, Option.some.injEq, exists_eq_left', held, iff_false]
        intro entry
        obtain ⟨q, found, held'⟩ := h.indexed.mp entry
        exact held (kept q e found held')
      · simp only [here, if_false]
        exact h.indexed

theorem create (h : s.Coherent) {r : MissionRun} {next : Store} (done : s.create r = .ok next) :
    next.Coherent := by
  obtain ⟨fresh, free, rfl⟩ := create_ok done
  apply h.write
  · intro q e found
    cases fresh.symm.trans found
  · intro e id held entry
    cases (free e held).symm.trans entry

theorem delete (h : s.Coherent) {id : String} {r : MissionRun} {next : Store}
    (done : s.delete id = some (next, r)) : next.Coherent := by
  obtain ⟨found, removed⟩ := delete_some done
  constructor
  · intro q run found'
    rw [find?_delete done] at found'
    split at found'
    · cases found'
    · exact h.keyed found'
  · intro e q
    rw [removed, index_unindexRun, ← removed]
    simp only [Carries, find?_delete done]
    split
    · rename_i held
      simp only [reduceCtorEq, false_iff]
      rintro ⟨run, found', held'⟩
      split at found'
      · cases found'
      · rename_i other
        exact other (h.carrier_unique found found' held held')
    · rename_i free
      constructor
      · intro entry
        obtain ⟨run, found', held'⟩ := h.indexed.mp entry
        have other : id ≠ q := by
          rintro rfl
          cases found.symm.trans found'
          exact free held'
        exact ⟨run, by rw [if_neg other]; exact found', held'⟩
      · rintro ⟨run, found', held'⟩
        split at found'
        · cases found'
        · exact h.indexed.mpr ⟨run, found', held'⟩

theorem assign (h : s.Coherent) {id : String} {a : Assignment} {changed : MissionRun} {next : Store}
    (done : s.assign id a = .ok (some (next, changed))) : next.Coherent := by
  obtain ⟨r, found, applied, free, rfl⟩ := assign_ok done
  have kept := Assignment.applied_keeps applied
  have key : changed.id = id := kept.id.trans (h.keyed found)
  subst key
  apply h.write
  · intro q e found' held
    cases found.symm.trans found'
    exact kept.held held
  · intro e owner held entry
    exact free e owner held entry

theorem mutate (h : s.Coherent) {e : String} {change : MissionRun → Mutation α}
    {changed : MissionRun} {answer : α}
    {next : Store} (keeps : ∀ r changed answer, change r = .commit changed answer →
      changed.id = r.id ∧ changed.externalMissionId = r.externalMissionId)
    (done : s.mutate e change = some (next, changed, answer)) : next.Coherent := by
  obtain ⟨id, r, resolved, ⟨decided, rfl⟩ | ⟨_, _, rfl⟩⟩ := mutate_some done
  · obtain ⟨found, held⟩ := h.resolve?_eq_some_iff.mp resolved
    obtain ⟨same_id, same_external⟩ := keeps r changed answer decided
    have key : changed.id = id := same_id.trans (h.keyed found)
    subst key
    apply h.write
    · intro q f found' held'
      cases found.symm.trans found'
      exact same_external.trans held'
    · intro f owner held' entry
      rw [same_external] at held'
      have own := h.indexed.mpr ⟨r, found, held'⟩
      exact Option.some.inj (entry.symm.trans own)
  · exact h

end Coherent
end Store
end MissionTracking
