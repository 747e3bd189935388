import Mathlib.Data.List.Sort
import Mathlib.Order.Compare
import Mathlib.Data.List.Nodup

/-!
Stable sorts. A list has one stable sort by a comparison, and sorting it by one comparison and then
by another is sorting it by the two of them, the later one first.
-/
namespace MissionTracking
open Std

/-- The elements of a list in the order of a comparison; those that tie stand as they stood
before. -/
structure IsStableSort (cmp : α → α → Ordering) (as bs : List α) : Prop where
  perm : bs.Perm as
  sorted : bs.Pairwise fun a b => (cmp a b).isLE = true
  stable : ∀ a, (bs.filter fun b => cmp a b == .eq) = as.filter fun b => cmp a b == .eq

variable {cmp rest : α → α → Ordering} {as bs cs : List α}

theorem eq_of_sorted_of_ties [TransCmp cmp] (perm : bs.Perm cs)
    (sorted : bs.Pairwise fun a b => (cmp a b).isLE = true)
    (sorted' : cs.Pairwise fun a b => (cmp a b).isLE = true)
    (ties : ∀ a, (bs.filter fun b => cmp a b == .eq) = cs.filter fun b => cmp a b == .eq) :
    bs = cs := by
  induction bs generalizing cs with
  | nil => exact perm.nil_eq
  | cons b bs ih =>
    cases cs with
    | nil => cases perm.eq_nil
    | cons c cs =>
      obtain ⟨least, ordered⟩ := List.pairwise_cons.mp sorted
      obtain ⟨least', ordered'⟩ := List.pairwise_cons.mp sorted'
      have self (x : α) : cmp x x = .eq := ReflCmp.compare_self
      have below : (cmp b c).isLE = true := by
        rcases List.mem_cons.mp (perm.symm.mem_iff.mp List.mem_cons_self) with same | member
        · rw [same, self]
          rfl
        · exact least c member
      have above : (cmp c b).isLE = true := by
        rcases List.mem_cons.mp (perm.mem_iff.mp List.mem_cons_self) with same | member
        · rw [same, self]
          rfl
        · exact least' b member
      have tie : cmp b c = .eq := OrientedCmp.isLE_antisymm below above
      have heads := ties b
      simp only [List.filter_cons, tie, self, beq_self_eq_true, if_true] at heads
      obtain rfl := (List.cons.inj heads).1
      have tails (a : α) :
          (bs.filter fun x => cmp a x == .eq) = cs.filter fun x => cmp a x == .eq := by
        have both := ties a
        simp only [List.filter_cons] at both
        split at both
        · exact (List.cons.inj both).2
        · exact both
      rw [ih (List.Perm.cons_inv perm) ordered ordered' tails]

namespace IsStableSort

theorem unique [TransCmp cmp] (first : IsStableSort cmp as bs)
    (second : IsStableSort cmp as cs) : bs = cs :=
  eq_of_sorted_of_ties (first.perm.trans second.perm.symm) first.sorted second.sorted
    fun a => (first.stable a).trans (second.stable a).symm

/-- Elements that tie by the later comparison stand as the earlier one left them. -/
theorem compose [ReflCmp cmp] (first : IsStableSort rest as bs) (second : IsStableSort cmp bs cs) :
    IsStableSort (compareLex cmp rest) as cs where
  perm := second.perm.trans first.perm
  sorted := by
    rw [List.pairwise_iff_forall_sublist]
    intro a b pair
    have ordered := List.pairwise_iff_forall_sublist.mp second.sorted pair
    rw [compareLex]
    cases tie : cmp a b with
    | lt => rfl
    | gt => rw [tie] at ordered; exact ordered
    | eq =>
      have kept : [a, b].Sublist bs := by
        have both := pair.filter fun x => cmp a x == .eq
        simp only [List.filter_cons, List.filter_nil, tie, ReflCmp.compare_self, beq_self_eq_true,
          if_true] at both
        rw [second.stable a] at both
        exact both.trans List.filter_sublist
      exact List.pairwise_iff_forall_sublist.mp first.sorted kept
  stable a := by
    have split (xs : List α) : (xs.filter fun b => compareLex cmp rest a b == .eq) =
        (xs.filter fun b => rest a b == .eq).filter fun b => cmp a b == .eq := by
      rw [List.filter_filter]
      congr 1
      funext b
      rw [compareLex, Bool.eq_iff_iff]
      simp [Ordering.then_eq_eq]
    have split' : (cs.filter fun b => compareLex cmp rest a b == .eq) =
        (cs.filter fun b => cmp a b == .eq).filter fun b => rest a b == .eq := by
      rw [split, List.filter_comm]
    rw [split', second.stable a, List.filter_comm, first.stable a, split]

end IsStableSort

theorem isStableSort_mergeSort [TransCmp cmp] (as : List α) :
    IsStableSort cmp as (as.mergeSort fun a b => (cmp a b).isLE) := by
  have trans (a b c : α) (first : (cmp a b).isLE = true) (second : (cmp b c).isLE = true) :
      (cmp a c).isLE = true :=
    TransCmp.isLE_trans first second
  have total (a b : α) : ((cmp a b).isLE || (cmp b a).isLE) = true := by
    have swapped : cmp b a = (cmp a b).swap := OrientedCmp.eq_swap
    rw [swapped]
    cases cmp a b <;> rfl
  refine ⟨List.mergeSort_perm as _, List.pairwise_mergeSort trans total as, fun a => ?_⟩
  have tied : (as.filter fun b => cmp a b == .eq).Pairwise fun b c => (cmp b c).isLE = true := by
    refine List.pairwise_iff_forall_sublist.mpr fun {b c} pair => ?_
    have member := List.mem_filter.mp (pair.subset List.mem_cons_self)
    have member' := List.mem_filter.mp (pair.subset (List.mem_cons_of_mem b List.mem_cons_self))
    have tie : cmp b c = .eq :=
      TransCmp.eq_trans (OrientedCmp.eq_symm (beq_iff_eq.mp member.2)) (beq_iff_eq.mp member'.2)
    rw [tie]
    rfl
  have kept :=
    (List.sublist_mergeSort trans total tied List.filter_sublist).filter fun b => cmp a b == .eq
  rw [List.filter_filter] at kept
  simp only [Bool.and_self] at kept
  have lengths :=
    ((List.mergeSort_perm as fun a b => (cmp a b).isLE).filter fun b => cmp a b == .eq).length_eq
  exact (kept.eq_of_length lengths.symm).symm

end MissionTracking
