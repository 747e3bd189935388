import MissionTracking.Query.Selection
import Mathlib.Data.List.Nodup

/-!
The order of listings is a preorder for all keys, repeated ones included, and two runs tie only when
they share an id. Runs with distinct ids therefore have one sorted list, and a listing does not show
in which order a store holds them.
-/
namespace MissionTracking
open Std

instance : TransOrd Instant :=
  inferInstanceAs (TransCmp (compareLex (compareOn Instant.second) (compareOn Instant.nano)))

namespace SortField

instance (f : SortField) : TransCmp f.order := by
  cases f with
  | id => exact inferInstanceAs (TransCmp (compareOn MissionRun.id))
  | name => exact inferInstanceAs (TransCmp (compareOn MissionRun.name))
  | status => exact inferInstanceAs (TransCmp (compareOn fun r : MissionRun => r.status.rank))
  | externalMissionId => exact inferInstanceAs (TransCmp (compareOn MissionRun.externalMissionId))
  | missionId => exact inferInstanceAs (TransCmp (compareOn MissionRun.missionId))
  | description => exact inferInstanceAs (TransCmp (compareOn MissionRun.description))
  | statusReason => exact inferInstanceAs (TransCmp (compareOn MissionRun.statusReason))
  | comment => exact inferInstanceAs (TransCmp (compareOn MissionRun.comment))
  | assetCode => exact inferInstanceAs (TransCmp (compareOn MissionRun.assetCode))
  | desiredStartTime => exact inferInstanceAs (TransCmp (compareOn MissionRun.desiredStartTime))
  | startTime => exact inferInstanceAs (TransCmp (compareOn MissionRun.startTime))
  | endTime => exact inferInstanceAs (TransCmp (compareOn MissionRun.endTime))
  | estimatedDuration => exact inferInstanceAs (TransCmp (compareOn MissionRun.estimatedDuration))

end SortField

theorem swap_eq_opposite {cmp : α → α → Ordering} [OrientedCmp cmp] :
    (fun a b => (cmp a b).swap) = fun a b => cmp b a := by
  funext a b
  have swapped : cmp b a = (cmp a b).swap := OrientedCmp.eq_swap
  exact swapped.symm

instance (k : SortKey) : TransCmp k.order := by
  obtain ⟨field, direction⟩ := k
  cases direction with
  | ascending => exact inferInstanceAs (TransCmp field.order)
  | descending =>
    have opposite : (SortKey.mk field .descending).order = fun a b => field.order b a :=
      swap_eq_opposite
    rw [opposite]
    infer_instance

namespace SortSpec

theorem order_cons (k : SortKey) (ks : List SortKey) :
    (SortSpec.mk (k :: ks)).order = compareLex k.order (SortSpec.mk ks).order := rfl

instance (s : SortSpec) : TransCmp s.order := by
  obtain ⟨keys⟩ := s
  induction keys with
  | nil => exact inferInstanceAs (TransCmp (compareOn MissionRun.id))
  | cons k ks ih =>
    rw [order_cons]
    infer_instance

/-- The id decides last, so that runs tie only when they share it. -/
theorem id_eq_of_tie {s : SortSpec} {a b : MissionRun} (tie : s.order a b = .eq) : a.id = b.id := by
  obtain ⟨keys⟩ := s
  induction keys with
  | nil => exact LawfulEqOrd.eq_of_compare tie
  | cons k ks ih =>
    rw [order_cons, compareLex, Ordering.then_eq_eq] at tie
    exact ih tie.2

theorem sort_perm (s : SortSpec) (runs : List MissionRun) : (s.sort runs).Perm runs :=
  List.mergeSort_perm runs _

theorem sort_pairwise (s : SortSpec) (runs : List MissionRun) :
    (s.sort runs).Pairwise fun a b => (s.order a b).isLE := by
  apply List.pairwise_mergeSort
  · intro a b c first second
    exact TransCmp.isLE_trans first second
  · intro a b
    have swapped : s.order b a = (s.order a b).swap := OrientedCmp.eq_swap
    rw [swapped]
    cases s.order a b <;> rfl

/-- Runs with distinct ids have one sorted list, however they are given. -/
theorem sort_eq_of_perm {s : SortSpec} {runs others : List MissionRun}
    (distinct : (runs.map MissionRun.id).Nodup) (perm : runs.Perm others) :
    s.sort runs = s.sort others := by
  have rearranged : (s.sort runs).Perm (s.sort others) :=
    (s.sort_perm runs).trans (perm.trans (s.sort_perm others).symm)
  refine rearranged.eq_of_pairwise ?_ (s.sort_pairwise runs) (s.sort_pairwise others)
  intro a b ha hb le ge
  have tie : s.order a b = .eq := OrientedCmp.isLE_antisymm le ge
  have hb' := rearranged.symm.mem_iff.mp hb
  exact List.inj_on_of_nodup_map distinct ((s.sort_perm runs).mem_iff.mp ha)
    ((s.sort_perm runs).mem_iff.mp hb')
    (id_eq_of_tie tie)

end SortSpec

namespace RunQuery

theorem matching_perm (q : RunQuery) (runs : List MissionRun) :
    (q.matching runs).Perm (runs.filter q.filter.fits) := q.sort.sort_perm _

theorem mem_matching_iff {q : RunQuery} {runs : List MissionRun} {r : MissionRun} :
    r ∈ q.matching runs ↔ r ∈ runs ∧ q.filter.fits r = true := by
  rw [(q.matching_perm runs).mem_iff, List.mem_filter]

theorem matching_eq_of_perm {q : RunQuery} {runs others : List MissionRun}
    (distinct : (runs.map MissionRun.id).Nodup) (perm : runs.Perm others) :
    q.matching runs = q.matching others := by
  have some_distinct : ((runs.filter q.filter.fits).map MissionRun.id).Nodup :=
    distinct.sublist (List.filter_sublist.map MissionRun.id)
  exact SortSpec.sort_eq_of_perm some_distinct (perm.filter q.filter.fits)

theorem select_eq_of_perm {q : RunQuery} {runs others : List MissionRun}
    (distinct : (runs.map MissionRun.id).Nodup) (perm : runs.Perm others) (window : PageWindow) :
    q.select runs window = q.select others window := by
  unfold select
  rw [matching_eq_of_perm distinct perm]

end RunQuery
end MissionTracking
