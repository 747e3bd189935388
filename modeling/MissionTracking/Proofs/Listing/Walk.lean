import MissionTracking.Proofs.Listing.Order
import MissionTracking.Proofs.Listing.Parameters
import MissionTracking.Proofs.Listing.Requests
import MissionTracking.Proofs.Run.Identity

/-!
Walking through a listing page by page. The walk ends where the metadata announces no next page,
which is the page that reaches the end of the list.
-/
namespace MissionTracking

/-- Requests of one page after the other, from a number on, as long as the metadata announces a next
page. -/
inductive Walk (request : UInt32 → Except TrackingError PagedRuns) :
    UInt32 → List PagedRuns → Prop where
  | last {number : UInt32} {page : PagedRuns} (served : request number = .ok page)
      (final : page.metadata.hasNext = false) : Walk request number [page]
  | next {number : UInt32} {page : PagedRuns} {pages : List PagedRuns}
      (served : request number = .ok page)
      (more : page.metadata.hasNext = true) (rest : Walk request (number + 1) pages) :
      Walk request number (page :: pages)

namespace Walk
variable {request : UInt32 → Except TrackingError PagedRuns} {number : UInt32}

theorem unique {pages others : List PagedRuns} (walk : Walk request number pages)
    (other : Walk request number others) : pages = others := by
  induction walk generalizing others with
  | last served final =>
    cases other with
    | last served' _ =>
      cases served.symm.trans served'
      rfl
    | next served' more _ =>
      cases served.symm.trans served'
      cases final.symm.trans more
  | next served more _ ih =>
    cases other with
    | last served' final =>
      cases served.symm.trans served'
      cases final.symm.trans more
    | next served' _ rest =>
      cases served.symm.trans served'
      rw [ih rest]

theorem served_at {pages : List PagedRuns} (walk : Walk request number pages) {i : Nat}
    {page : PagedRuns}
    (at_place : pages[i]? = some page) : request (number + UInt32.ofNat i) = .ok page := by
  induction walk generalizing i with
  | @last number first served _ =>
    cases i with
    | zero =>
      cases at_place
      simpa using served
    | succ i => simp at at_place
  | @next number first pages served _ _ ih =>
    cases i with
    | zero =>
      cases at_place
      simpa using served
    | succ i =>
      have later := ih at_place
      have place : number + UInt32.ofNat (i + 1) = number + 1 + UInt32.ofNat i := by
        rw [UInt32.ofNat_add, UInt32.add_assoc, UInt32.add_comm 1]
        rfl
      rwa [place]

end Walk

/-- Windows of one size that follow each other up to the end of a list, put together. -/
theorem flatten_windows (l : List α) (size : Nat) (i m : Nat)
    (enough : l.length ≤ (i + m + 1) * size) :
    ((List.range' i (m + 1)).map fun j => (l.drop (j * size)).take size).flatten =
    l.drop (i * size) := by
  induction m generalizing i with
  | zero =>
    have rest : (l.drop (i * size)).length ≤ size := by
      rw [List.length_drop]
      rw [Nat.add_zero, Nat.succ_mul] at enough
      omega
    simp only [List.range'_succ, List.range'_zero, List.map_cons, List.map_nil, List.flatten_cons,
      List.flatten_nil, List.append_nil, List.take_of_length_le rest]
  | succ m ih =>
    have later := ih (i + 1) (by rwa [Nat.add_right_comm i 1 m, Nat.add_assoc i m 1])
    rw [List.range'_succ, List.map_cons, List.flatten_cons, later, Nat.succ_mul, ← List.drop_drop,
      List.take_append_drop]

/-- Requests that are answered with the pages of a list up to its last one can be walked through
from any of them. -/
theorem exists_walk {request : UInt32 → Except TrackingError PagedRuns} {found : List MissionRun}
    {size : Nat} (count : found.length ⌈/⌉ size ≤ 2 ^ 32 - 1)
    (served : ∀ number : UInt32, 1 ≤ number.toNat → number.toNat ≤ max (found.length ⌈/⌉ size) 1 →
      ∃ page, request number = .ok page ∧ IsPage found size number.toNat page)
    (m : Nat) (number : UInt32) (first : 1 ≤ number.toNat)
    (left : number.toNat + m = max (found.length ⌈/⌉ size) 1) :
    ∃ pages, Walk request number pages ∧ pages.length = m + 1 ∧
      pages.map PagedRuns.items =
        (List.range' (number.toNat - 1) (m + 1)).map fun j =>
          (found.drop (j * size)).take size := by
  induction m generalizing number with
  | zero =>
    obtain ⟨page, answer, shape⟩ := served number first (by omega)
    have final : page.metadata.hasNext = false := by
      rw [Bool.eq_false_iff, ne_eq, shape.hasNext]
      omega
    refine ⟨[page], .last answer final, rfl, ?_⟩
    simp only [List.map_cons, List.map_nil, List.range'_succ, List.range'_zero, shape.items]
  | succ m ih =>
    obtain ⟨page, answer, shape⟩ := served number first (by omega)
    have more : page.metadata.hasNext = true := by
      rw [shape.hasNext]
      omega
    have following : (number + 1).toNat = number.toNat + 1 := by
      rw [UInt32.toNat_add]
      exact Nat.mod_eq_of_lt (by
        have one : (1 : UInt32).toNat = 1 := rfl
        omega)
    obtain ⟨pages, walk, length, items⟩ := ih (number + 1) (by omega) (by omega)
    refine ⟨page :: pages, .next answer more walk, by rw [List.length_cons, length], ?_⟩
    have place : (number + 1).toNat - 1 = number.toNat - 1 + 1 := by omega
    rw [List.map_cons, items, shape.items, place,
      List.range'_succ (s := number.toNat - 1) (n := m + 1), List.map_cons]

namespace Tracker

/-- The walk through a listing from the first page on is answered throughout and gives every run
that agrees with the parameters exactly once, in the order that they ask for, on pages that are full
but for the last one. No page lies beyond the last. -/
theorem list_walk {t : Tracker} {p : QueryParameters} {plan : QueryPlan}
    (prepared : QueryPlan.ofParameters t.limits p = .ok plan)
    (bounded : (t.store.toList.filter plan.query.filter.fits).length ≤
      (2 ^ 32 - 1) * plan.page.size.toNat) :
    ∃ found size pages, found = plan.query.matching t.store.toList ∧ size = plan.page.size.toNat ∧
      found.Perm (t.store.toList.filter plan.query.filter.fits) ∧
      (∀ r, r ∈ found ↔ r ∈ t.store.toList ∧ p.Agrees r) ∧
      SortSpec.parse p.orderBy = .ok plan.query.sort ∧
      found.Pairwise (fun a b => (plan.query.sort.order a b).isLE) ∧
      Walk (t.request p) 1 pages ∧
      (∀ others, Walk (t.request p) 1 others → others = pages) ∧
      pages.length = max (found.length ⌈/⌉ size) 1 ∧
      (pages.map PagedRuns.items).flatten = found ∧
      (∀ i page, pages[i]? = some page →
        (i + 1 < pages.length → page.items.length = size) ∧
        (i + 1 = pages.length →
          page.items.length ≤ size ∧ (page.items.length = 0 ↔ found.length = 0)) ∧
        page.metadata.totalCount.toNat = found.length ∧
        page.metadata.totalPages.toNat = found.length ⌈/⌉ size ∧
        (page.metadata.hasPrevious = false ↔ i = 0)) ∧
      ∀ number : UInt32, max (found.length ⌈/⌉ size) 1 < number.toNat →
        ∃ totalPages : UInt32, totalPages.toNat = found.length ⌈/⌉ size ∧
          t.request p number = .error (.pageOutOfRange number totalPages) := by
  have rearranged := plan.query.matching_perm t.store.toList
  rw [← rearranged.length_eq] at bounded
  have positive := plan.page.one_le_size
  have count := QueryPlan.pageCount_le bounded
  have one : (1 : UInt32).toNat = 1 := rfl
  obtain ⟨m, total⟩ :
      ∃ m, 1 + m = max ((plan.query.matching t.store.toList).length ⌈/⌉ plan.page.size.toNat) 1 :=
    ⟨_, Nat.add_sub_cancel' (Nat.le_max_right _ _)⟩
  obtain ⟨pages, walk, length, items⟩ :=
    exists_walk count (fun _ first within => request_of_le prepared bounded first within) m 1
      (Nat.le_refl 1) total
  obtain ⟨sorted, _, filtered⟩ := QueryPlan.ofParameters_ok.mp prepared
  refine ⟨_, _, pages, rfl, rfl, rearranged, ?_, sorted, plan.query.sort.sort_pairwise _, walk,
    fun others other => other.unique walk, by omega, ?_, ?_, ?_⟩
  · intro r
    rw [RunQuery.mem_matching_iff, RunFilter.fits_iff_agrees filtered]
  · have enough : (plan.query.matching t.store.toList).length ≤
        (0 + m + 1) * plan.page.size.toNat := by
      rw [Nat.mul_comm, ← ceilDiv_le_iff_le_mul positive]
      omega
    have whole :=
      flatten_windows (plan.query.matching t.store.toList) plan.page.size.toNat 0 m enough
    rw [Nat.zero_mul, List.drop_zero] at whole
    rw [items]
    exact whole
  · intro i page place
    obtain ⟨before, _⟩ := List.getElem?_eq_some_iff.mp place
    have number : (1 + UInt32.ofNat i).toNat = i + 1 := by
      rw [UInt32.toNat_add, UInt32.toNat_ofNat', one]
      omega
    have first : 1 ≤ (1 + UInt32.ofNat i).toNat := by omega
    obtain ⟨page', answer, shape⟩ := request_of_le prepared bounded first (by omega)
    cases answer.symm.trans (walk.served_at place)
    rw [number] at shape
    refine ⟨?_, ?_, shape.totalCount, shape.totalPages, ?_⟩
    · intro inside
      exact shape.length_of_lt positive (by omega) (by omega)
    · intro final
      exact shape.length_of_eq positive (by omega)
    · rw [Bool.eq_false_iff, ne_eq, shape.hasPrevious]
      omega
  · intro number beyond
    exact request_of_lt prepared bounded beyond

def withThreeRuns : Tracker :=
  { fresh .standard 1 false with
    store := ((Store.empty.put "a" (.plain "a")).put "b" (.plain "b")).put "c"
      { MissionRun.plain "c" with status := .ongoing } }

/-- The pending runs of three, the last id first, on pages of one run. -/
theorem list_walk_withThreeRuns :
    ∃ pages,
      Walk (withThreeRuns.request
        { status := some .pending, pageSize := some 1, orderBy := some "id desc" }) 1 pages ∧
      pages.length = 2 ∧ (pages.map PagedRuns.items).flatten = [.plain "b", .plain "a"] ∧
      (withThreeRuns.request
        { status := some .pending, pageSize := some 1,
          orderBy := some "id desc" } 3).isOk = false := by
  have prepared : QueryPlan.ofParameters withThreeRuns.limits
      { status := some .pending, pageSize := some 1, orderBy := some "id desc" } =
        .ok ⟨⟨⟨[.status .pending]⟩, ⟨[⟨.id, .descending⟩]⟩⟩, ⟨1, 1, by decide, by decide⟩⟩ := by
    decide +kernel
  have pending : withThreeRuns.store.toList.filter (RunFilter.mk [.status .pending]).fits =
      [.plain "a", .plain "b"] := by decide +kernel
  obtain ⟨found, size, pages, _, rfl, rearranged, _, _, ordered, walk, _, length, whole, _,
    beyond⟩ := list_walk prepared (by rw [pending]; decide)
  rw [pending] at rearranged
  have sorted : found = [.plain "b", .plain "a"] := by
    have swapped : found.Perm [.plain "b", .plain "a"] := rearranged.trans (.swap _ _ [])
    refine swapped.eq_of_pairwise ?_ ordered (by decide +kernel)
    intro a b ha hb le ge
    have members :
        ∀ a ∈ [MissionRun.plain "a", .plain "b"], ∀ b ∈ [MissionRun.plain "b", .plain "a"],
        (SortSpec.order ⟨[⟨.id, .descending⟩]⟩ a b).isLE →
        (SortSpec.order ⟨[⟨.id, .descending⟩]⟩ b a).isLE → a = b := by decide +kernel
    exact members a (rearranged.mem_iff.mp ha) b hb le ge
  rw [sorted] at length beyond
  obtain ⟨total, _, refused⟩ := beyond 3 (by decide)
  refine ⟨pages, walk, length, whole.trans sorted, ?_⟩
  rw [refused]
  rfl

end Tracker
end MissionTracking
