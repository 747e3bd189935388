import MissionTracking.Proofs.Listing.Order
import MissionTracking.Proofs.Store.Calls
import MissionTracking.Tracker.Runs
import Mathlib.Logic.Basic

/-!
In which order runs are yielded to a listing is not seen in it. Any keys in any directions, closed
by the id, put runs with distinct ids in a strict total order, so that a page is cut from the one
list that is sorted by it.
-/
namespace MissionTracking
open Std

namespace SortSpec

/-- The first run is listed before the second. -/
def Before (s : SortSpec) (a b : MissionRun) : Prop := s.order a b = .lt

variable {s : SortSpec} {a b c : MissionRun}

theorem not_before_self (s : SortSpec) (a : MissionRun) : ¬ s.Before a a := by
  have tie : s.order a a = .eq := ReflCmp.compare_self
  unfold Before
  rw [tie]
  exact Ordering.noConfusion

theorem Before.trans (first : s.Before a b) (second : s.Before b c) : s.Before a c :=
  TransCmp.lt_trans first second

theorem Before.asymm (first : s.Before a b) : ¬ s.Before b a :=
  fun second => s.not_before_self a (first.trans second)

theorem before_or_before (s : SortSpec) (other : a.id ≠ b.id) : s.Before a b ∨ s.Before b a := by
  have opposite : s.order b a = (s.order a b).swap := OrientedCmp.eq_swap
  unfold Before
  rw [opposite]
  cases compared : s.order a b with
  | lt => exact .inl rfl
  | eq => exact absurd (id_eq_of_tie compared) other
  | gt => exact .inr rfl

theorem xor_before (s : SortSpec) (other : a.id ≠ b.id) : Xor (s.Before a b) (s.Before b a) := by
  rcases s.before_or_before other with first | first
  · exact .inl ⟨first, first.asymm⟩
  · exact .inr ⟨first, first.asymm⟩

theorem sort_pairwise_before {runs : List MissionRun} (distinct : (runs.map MissionRun.id).Nodup) :
    (s.sort runs).Pairwise s.Before := by
  have sorted_distinct : ((s.sort runs).map MissionRun.id).Nodup :=
    ((s.sort_perm runs).map MissionRun.id).nodup_iff.mpr distinct
  have apart : (s.sort runs).Pairwise fun a b => a.id ≠ b.id := List.pairwise_map.mp sorted_distinct
  refine ((s.sort_pairwise runs).and apart).imp ?_
  rintro a b ⟨le, other⟩
  rcases s.before_or_before other with first | reversed
  · exact first
  · have opposite : s.order a b = (s.order b a).swap := OrientedCmp.eq_swap
    rw [opposite, reversed] at le
    exact absurd le Bool.false_ne_true

end SortSpec

theorem RunQuery.items_pairwise_before {q : RunQuery} {runs : List MissionRun}
    (distinct : (runs.map MissionRun.id).Nodup) (window : PageWindow) :
    (q.select runs window).items.Pairwise q.sort.Before := by
  have matching : (q.matching runs).Pairwise q.sort.Before :=
    SortSpec.sort_pairwise_before (distinct.sublist (List.filter_sublist.map MissionRun.id))
  exact matching.sublist ((List.take_sublist _ _).trans (List.drop_sublist _ _))

namespace Tracker

/-- The answer to a listing when the runs are yielded in a given order. -/
def listing (limits : PageLimits) (p : QueryParameters) (runs : List MissionRun) :
    Except TrackingError PagedRuns :=
  match QueryPlan.ofParameters limits p with
  | .ok plan => plan.run runs
  | .error e => .error (.validation e)

theorem list_answer (t : Tracker) (p : QueryParameters) :
    (t.list p).answer = listing t.limits p t.store.toList := by
  unfold list listing
  cases QueryPlan.ofParameters t.limits p <;> rfl

theorem listing_eq_of_perm {limits : PageLimits} {p : QueryParameters}
    {runs others : List MissionRun}
    (distinct : (runs.map MissionRun.id).Nodup) (perm : runs.Perm others) :
    listing limits p runs = listing limits p others := by
  unfold listing QueryPlan.run
  cases QueryPlan.ofParameters limits p with
  | error e => rfl
  | ok plan => simp only [RunQuery.select_eq_of_perm distinct perm]

/-- Every sort specification orders runs with distinct ids strictly and totally, a page of them is
in that order whatever the order in which they are yielded, and it is the same page. A tracker
therefore answers a listing alike for every order in which its store may yield the runs. -/
theorem list_blind_to_yield (s : SortSpec) :
    (∀ runs : List MissionRun, (runs.map MissionRun.id).Nodup →
      (∀ a ∈ runs, ¬ s.Before a a) ∧
      (∀ a ∈ runs, ∀ b ∈ runs, a ≠ b → Xor (s.Before a b) (s.Before b a)) ∧
      (∀ a ∈ runs, ∀ b ∈ runs, ∀ c ∈ runs, s.Before a b → s.Before b c → s.Before a c) ∧
      ∀ (filter : RunFilter) (window : PageWindow) (others : List MissionRun), others.Perm runs →
        RunQuery.select ⟨filter, s⟩ others window = RunQuery.select ⟨filter, s⟩ runs window ∧
        (RunQuery.select ⟨filter, s⟩ others window).items.Pairwise s.Before) ∧
    ∀ t : Tracker, t.store.Reachable → ∀ (p : QueryParameters) (yielded : List MissionRun),
      yielded.Perm t.store.toList → (t.list p).answer = listing t.limits p yielded := by
  constructor
  · intro runs distinct
    refine ⟨fun a _ => s.not_before_self a, ?_,
      fun _ _ _ _ _ _ first second => first.trans second, ?_⟩
    · intro a ha b hb other
      exact s.xor_before fun shared => other (List.inj_on_of_nodup_map distinct ha hb shared)
    · intro filter window others perm
      have same := RunQuery.select_eq_of_perm (q := ⟨filter, s⟩) distinct perm.symm window
      rw [← same]
      exact ⟨rfl, RunQuery.items_pairwise_before (q := ⟨filter, s⟩) distinct window⟩
  · intro t reachable p yielded perm
    rw [list_answer]
    exact listing_eq_of_perm reachable.coherent.nodup_ids perm.symm

def nameDown : SortSpec := ⟨[⟨.name, .descending⟩, ⟨.name, .ascending⟩]⟩

def withRunsAB : Tracker :=
  { fresh .standard 1 false with
    store := ((Store.empty.perform (.create (.plain "b") : StoreCall Unit)).1.perform
      (.create (.plain "a") : StoreCall Unit)).1 }

theorem list_blind_to_yield_oneName :
    Xor (nameDown.Before (.plain "a") (.plain "b")) (nameDown.Before (.plain "b") (.plain "a")) ∧
      RunQuery.select ⟨.all, nameDown⟩ [.plain "b", .plain "a"] ⟨0, 1⟩ =
        RunQuery.select ⟨.all, nameDown⟩ [.plain "a", .plain "b"] ⟨0, 1⟩ ∧
      (withRunsAB.list {}).answer = listing .standard {} [.plain "b", .plain "a"] := by
  have ⟨ordered, yields⟩ := list_blind_to_yield nameDown
  have ⟨_, total, _, pages⟩ := ordered [.plain "a", .plain "b"] (by decide)
  refine ⟨total _ (by decide) _ (by decide) (by decide), ?_, ?_⟩
  · exact (pages .all ⟨0, 1⟩ [.plain "b", .plain "a"] (.swap _ _ [])).1
  · apply yields withRunsAB (.call _ (.call _ .empty)) {} [.plain "b", .plain "a"]
    have stored : withRunsAB.store.toList = [.plain "a", .plain "b"] := by decide +kernel
    rw [stored]
    exact .swap _ _ []

end Tracker
end MissionTracking
