import MissionTracking.Proofs.Refusal
import MissionTracking.Proofs.Listing.Pages
import MissionTracking.Tracker.Runs

/-!
Requests for the pages of one listing. The parameters are the same for every page but for its
number, so that all pages are windows of one sorted list, and a page beyond the last is refused.
-/
namespace MissionTracking

/-- A page of a listing in pages of a size, by its number, with what its metadata says. -/
structure IsPage (found : List MissionRun) (size number : Nat) (page : PagedRuns) : Prop where
  items : page.items = (found.drop ((number - 1) * size)).take size
  totalCount : page.metadata.totalCount.toNat = found.length
  totalPages : page.metadata.totalPages.toNat = found.length ⌈/⌉ size
  hasNext : page.metadata.hasNext = true ↔ number < max (found.length ⌈/⌉ size) 1
  hasPrevious : page.metadata.hasPrevious = true ↔ 1 < number

namespace IsPage
variable {found : List MissionRun} {size number : Nat} {page : PagedRuns}

theorem length_of_lt (h : IsPage found size number page) (positive : 0 < size) (first : 1 ≤ number)
    (before : number < max (found.length ⌈/⌉ size) 1) : page.items.length = size := by
  have pages : number < found.length ⌈/⌉ size := by omega
  have full : number * size < found.length := by
    rw [← Nat.not_le, ceilDiv_le_iff_le_mul positive, Nat.mul_comm] at pages
    omega
  have step : (number - 1) * size + size = number * size := by
    rw [← Nat.succ_mul, Nat.succ_eq_add_one, Nat.sub_add_cancel first]
  rw [h.items, List.length_take, List.length_drop]
  omega

theorem length_of_eq (h : IsPage found size number page) (positive : 0 < size)
    (final : number = max (found.length ⌈/⌉ size) 1) :
    page.items.length ≤ size ∧ (page.items.length = 0 ↔ found.length = 0) := by
  rw [h.items, List.length_take, List.length_drop]
  refine ⟨Nat.min_le_left _ _, ?_⟩
  constructor
  · intro nothing
    by_contra something
    have begins : ¬ found.length ⌈/⌉ size ≤ number - 1 := by
      have pages : ¬ found.length ⌈/⌉ size ≤ 0 := by
        rw [ceilDiv_le_iff_le_mul positive]
        omega
      omega
    rw [ceilDiv_le_iff_le_mul positive, Nat.mul_comm] at begins
    omega
  · intro nothing
    omega

end IsPage

namespace QueryPlan

def atPage (plan : QueryPlan) (number : UInt32) (positive : 1 ≤ number) : QueryPlan :=
  { plan with page := ⟨number, plan.page.size, positive, plan.page.size_pos⟩ }

theorem ofParameters_ok {limits : PageLimits} {p : QueryParameters} {plan : QueryPlan} :
    ofParameters limits p = .ok plan ↔
      SortSpec.parse p.orderBy = .ok plan.query.sort ∧
      PageRequest.ofParts (p.pageNumber.getD 1) (p.pageSize.getD limits.defaultSize)
        limits.maxSize = .ok plan.page ∧
      RunFilter.ofParameters p = .ok plan.query.filter := by
  unfold ofParameters
  simp only [bind_ok_iff]
  constructor
  · rintro ⟨sort, sorted, page, paged, filter, filtered, whole⟩
    cases whole
    exact ⟨sorted, paged, filtered⟩
  · rintro ⟨sorted, paged, filtered⟩
    exact ⟨_, sorted, _, paged, _, filtered, rfl⟩

theorem ofParameters_page {limits : PageLimits} {p : QueryParameters} {plan : QueryPlan}
    (prepared : ofParameters limits p = .ok plan) {number : UInt32} (positive : 1 ≤ number) :
    ofParameters limits { p with pageNumber := some number } =
    .ok (plan.atPage number positive) := by
  obtain ⟨sorted, paged, filtered⟩ := ofParameters_ok.mp prepared
  exact ofParameters_ok.mpr ⟨sorted, PageRequest.ofParts_page paged positive, filtered⟩

def served (plan : QueryPlan) (runs : List MissionRun) : PagedRuns :=
  let found := plan.query.select runs plan.page.window
  ⟨found.items, plan.page.metadata found.totalCount⟩

section
variable {plan : QueryPlan} {runs : List MissionRun}
  (bounded : (plan.query.matching runs).length ≤ (2 ^ 32 - 1) * plan.page.size.toNat)
include bounded

theorem totalCount_toNat (window : PageWindow) :
    (plan.query.select runs window).totalCount.toNat = (plan.query.matching runs).length := by
  have size : plan.page.size.toNat ≤ 2 ^ 32 - 1 := by
    have bound := plan.page.size.toNat_lt
    omega
  have fits : (2 ^ 32 - 1) * plan.page.size.toNat ≤ (2 ^ 32 - 1) * (2 ^ 32 - 1) :=
    Nat.mul_le_mul_left _ size
  unfold RunQuery.select
  dsimp only
  rw [UInt64.toNat_ofNat', Nat.mod_eq_of_lt (by omega)]

theorem pageCount_le : (plan.query.matching runs).length ⌈/⌉ plan.page.size.toNat ≤ 2 ^ 32 - 1 := by
  rw [ceilDiv_le_iff_le_mul plan.page.one_le_size, Nat.mul_comm]
  exact bounded

theorem isPage_served :
    IsPage (plan.query.matching runs) plan.page.size.toNat plan.page.number.toNat
      (plan.served runs) := by
  have positive := plan.page.one_le_size
  have first := plan.page.one_le_number
  have total := totalCount_toNat bounded plan.page.window
  have pages := pageCount_le bounded
  constructor
  · unfold served RunQuery.select
    dsimp only
    rw [plan.page.offset_toNat]
    rfl
  · exact total
  · refine (plan.page.totalPages_toNat _).trans ?_
    rw [total]
    omega
  · refine (plan.page.hasNext_iff _).trans ?_
    have next :
        (plan.query.matching runs).length ⌈/⌉ plan.page.size.toNat ≤ plan.page.number.toNat ↔
        (plan.query.matching runs).length ≤ plan.page.size.toNat * plan.page.number.toNat :=
      ceilDiv_le_iff_le_mul positive
    rw [Nat.mul_comm] at next
    rw [total]
    omega
  · exact plan.page.hasPrevious_iff _

theorem run_of_le
    (within : plan.page.number.toNat ≤
      max ((plan.query.matching runs).length ⌈/⌉ plan.page.size.toNat) 1) :
    plan.run runs = .ok (plan.served runs) := by
  rw [← totalCount_toNat bounded plan.page.window] at within
  unfold run
  dsimp only
  rw [plan.page.checkRange_of_le within]
  rfl

theorem run_of_lt
    (beyond : max ((plan.query.matching runs).length ⌈/⌉ plan.page.size.toNat) 1 <
      plan.page.number.toNat) :
    plan.run runs = .error
    (.pageOutOfRange plan.page.number (plan.served runs).metadata.totalPages) := by
  rw [← totalCount_toNat bounded plan.page.window] at beyond
  unfold run
  dsimp only
  rw [plan.page.checkRange_of_lt beyond]
  rfl

end
end QueryPlan

namespace Tracker

def request (t : Tracker) (p : QueryParameters) (number : UInt32) :
    Except TrackingError PagedRuns :=
  (t.list { p with pageNumber := some number }).answer

theorem request_eq {t : Tracker} {p : QueryParameters} {plan : QueryPlan}
    (prepared : QueryPlan.ofParameters t.limits p = .ok plan) {number : UInt32}
    (positive : 1 ≤ number) :
    t.request p number = (plan.atPage number positive).run t.store.toList := by
  unfold request list
  rw [QueryPlan.ofParameters_page prepared positive]

section
variable {t : Tracker} {p : QueryParameters} {plan : QueryPlan}
  (prepared : QueryPlan.ofParameters t.limits p = .ok plan)
  (bounded : (plan.query.matching t.store.toList).length ≤ (2 ^ 32 - 1) * plan.page.size.toNat)
include prepared bounded

theorem request_of_le {number : UInt32} (first : 1 ≤ number.toNat)
    (within : number.toNat ≤
      max ((plan.query.matching t.store.toList).length ⌈/⌉ plan.page.size.toNat) 1) :
    ∃ page, t.request p number = .ok page ∧
      IsPage (plan.query.matching t.store.toList) plan.page.size.toNat number.toNat page := by
  have first' : 1 ≤ number := UInt32.le_iff_toNat_le.mpr first
  refine ⟨(plan.atPage number first').served t.store.toList, ?_, ?_⟩
  · rw [request_eq prepared first']
    exact @QueryPlan.run_of_le (plan.atPage number first') _ bounded within
  · exact @QueryPlan.isPage_served (plan.atPage number first') _ bounded

theorem request_of_lt {number : UInt32}
    (beyond : max ((plan.query.matching t.store.toList).length ⌈/⌉ plan.page.size.toNat) 1 <
      number.toNat) :
    ∃ totalPages : UInt32,
      totalPages.toNat = (plan.query.matching t.store.toList).length ⌈/⌉ plan.page.size.toNat ∧
      t.request p number = .error (.pageOutOfRange number totalPages) := by
  have first : 1 ≤ number := by
    have one : (1 : UInt32).toNat = 1 := rfl
    rw [UInt32.le_iff_toNat_le, one]
    omega
  have shape := @QueryPlan.isPage_served (plan.atPage number first) _ bounded
  refine ⟨_, shape.totalPages, ?_⟩
  rw [request_eq prepared first]
  exact @QueryPlan.run_of_lt (plan.atPage number first) _ bounded beyond

end

end Tracker
end MissionTracking
