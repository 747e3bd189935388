import MissionTracking.Query.Page
import Mathlib.Algebra.Order.Floor.Div
import Mathlib.Data.UInt

/-!
The arithmetic of pages over the natural numbers. Numbers and sizes are words of 32 bits, so that a
product of two fits a word of 64 and nothing overflows; only the number of pages can be too large
for its word and is held there.
-/
namespace MissionTracking

theorem ceilDiv_eq_div_add (total : Nat) {size : Nat} (positive : 0 < size) :
    total ⌈/⌉ size = total / size + if total % size = 0 then 0 else 1 := by
  have parts := Nat.div_add_mod total size
  have small := Nat.mod_lt total positive
  have shifted : total + size - 1 = size * (total / size) + (total % size + size - 1) := by omega
  rw [Nat.ceilDiv_eq_add_pred_div, shifted, Nat.mul_add_div positive]
  congr 1
  split
  · rename_i exact_multiple
    exact Nat.div_eq_of_lt (by omega)
  · rename_i remainder
    exact Nat.div_eq_of_lt_le (by omega) (by omega)

theorem toNat_max (a b : UInt32) : (max a b).toNat = max a.toNat b.toNat := by
  change (if a ≤ b then b else a).toNat = _
  split
  · rename_i le
    rw [UInt32.le_iff_toNat_le] at le
    omega
  · rename_i gt
    rw [UInt32.le_iff_toNat_le] at gt
    omega

theorem toNat_min (a b : UInt32) : (min a b).toNat = min a.toNat b.toNat := by
  change (if a ≤ b then a else b).toNat = _
  split
  · rename_i le
    rw [UInt32.le_iff_toNat_le] at le
    omega
  · rename_i gt
    rw [UInt32.le_iff_toNat_le] at gt
    omega

namespace PageRequest

theorem ofParts_page {number size maximum : UInt32} {page : PageRequest}
    (accepted : ofParts number size maximum = .ok page) {other : UInt32} (positive : 1 ≤ other) :
    ofParts other size maximum = .ok ⟨other, page.size, positive, page.size_pos⟩ := by
  unfold ofParts at accepted ⊢
  split at accepted
  · split at accepted
    · rename_i sized
      cases accepted
      rw [dif_pos positive, dif_pos sized]
    · cases accepted
  · cases accepted

variable (p : PageRequest)

theorem one_le_number : 1 ≤ p.number.toNat := UInt32.le_iff_toNat_le.mp p.number_pos

theorem one_le_size : 1 ≤ p.size.toNat := UInt32.le_iff_toNat_le.mp p.size_pos

theorem number_mul_size_lt : p.number.toNat * p.size.toNat < 2 ^ 64 := by
  have number : p.number.toNat ≤ 2 ^ 32 - 1 := by
    have bound := p.number.toNat_lt
    omega
  have size : p.size.toNat ≤ 2 ^ 32 - 1 := by
    have bound := p.size.toNat_lt
    omega
  calc p.number.toNat * p.size.toNat ≤ (2 ^ 32 - 1) * (2 ^ 32 - 1) := Nat.mul_le_mul number size
    _ < 2 ^ 64 := by decide

theorem pred_number_mul_size_add :
    (p.number.toNat - 1) * p.size.toNat + p.size.toNat = p.number.toNat * p.size.toNat := by
  have one := p.one_le_number
  rw [← Nat.succ_mul, Nat.succ_eq_add_one, Nat.sub_add_cancel one]

theorem offset_toNat : p.window.offset.toNat = (p.number.toNat - 1) * p.size.toNat := by
  have number : (p.number - 1).toNat = p.number.toNat - 1 := UInt32.toNat_sub_of_le _ _ p.number_pos
  have bound := p.number_mul_size_lt
  have sum := p.pred_number_mul_size_add
  unfold window
  rw [UInt64.toNat_mul, UInt32.toNat_toUInt64, UInt32.toNat_toUInt64, number]
  exact Nat.mod_eq_of_lt (by omega)

theorem hasNext_iff (total : UInt64) :
    (p.metadata total).hasNext = true ↔ p.number.toNat * p.size.toNat < total.toNat := by
  have bound := p.number_mul_size_lt
  have sum := p.pred_number_mul_size_add
  unfold metadata
  rw [decide_eq_true_iff, UInt64.lt_iff_toNat_lt, UInt64.toNat_add, offset_toNat]
  have limit : p.window.limit.toUInt64.toNat = p.size.toNat := UInt32.toNat_toUInt64 _
  rw [limit, sum, Nat.mod_eq_of_lt bound]

theorem hasPrevious_iff (total : UInt64) :
    (p.metadata total).hasPrevious = true ↔ 1 < p.number.toNat := by
  unfold metadata
  rw [decide_eq_true_iff, UInt32.lt_iff_toNat_lt]
  rfl

theorem whole_add_rest (total : UInt64) :
    (total / p.size.toUInt64).toNat +
    (if total % p.size.toUInt64 = 0 then 0 else 1 : UInt64).toNat =
      total.toNat ⌈/⌉ p.size.toNat ∧ total.toNat ⌈/⌉ p.size.toNat < 2 ^ 64 := by
  have positive := p.one_le_size
  have remainder : total % p.size.toUInt64 = 0 ↔ total.toNat % p.size.toNat = 0 := by
    rw [← UInt64.toNat_inj, UInt64.toNat_mod, UInt32.toNat_toUInt64]
    rfl
  have carried : (if total % p.size.toUInt64 = 0 then 0 else 1 : UInt64).toNat =
      if total.toNat % p.size.toNat = 0 then 0 else 1 := by
    simp only [remainder]
    split <;> rfl
  constructor
  · rw [UInt64.toNat_div, UInt32.toNat_toUInt64, carried, ceilDiv_eq_div_add total.toNat positive]
  · refine Nat.lt_of_le_of_lt ?_ total.toNat_lt
    rw [ceilDiv_le_iff_le_mul positive]
    exact Nat.le_mul_of_pos_left _ positive

theorem totalPages_toNat (total : UInt64) :
    (p.totalPages total).toNat = min (total.toNat ⌈/⌉ p.size.toNat) (2 ^ 32 - 1) := by
  obtain ⟨sum, bound⟩ := p.whole_add_rest total
  have pages : (total / p.size.toUInt64 + if total % p.size.toUInt64 = 0 then 0 else 1).toNat =
      total.toNat ⌈/⌉ p.size.toNat := by
    rw [UInt64.toNat_add, sum, Nat.mod_eq_of_lt bound]
  have largest : maxWord.toUInt64.toNat = 2 ^ 32 - 1 := rfl
  unfold totalPages
  dsimp only
  generalize
    (total / p.size.toUInt64 + if total % p.size.toUInt64 = 0 then 0 else 1) = rounded at pages ⊢
  split
  · rename_i fits
    rw [UInt64.le_iff_toNat_le, pages, largest] at fits
    rw [UInt64.toNat_toUInt32, pages]
    omega
  · rename_i exceeds
    rw [UInt64.le_iff_toNat_le, pages, largest] at exceeds
    have held : maxWord.toNat = 2 ^ 32 - 1 := rfl
    omega

/-- Holding the number of pages at the largest word makes no difference to what lies beyond the last
page. -/
theorem beyond_iff (total : UInt64) :
    max (p.totalPages total) 1 < p.number ↔
    max (total.toNat ⌈/⌉ p.size.toNat) 1 < p.number.toNat := by
  have pages := p.totalPages_toNat total
  have bound := p.number.toNat_lt
  have one : (1 : UInt32).toNat = 1 := rfl
  rw [UInt32.lt_iff_toNat_lt, toNat_max, pages, one]
  omega

theorem checkRange_of_le {total : UInt64}
    (within : p.number.toNat ≤ max (total.toNat ⌈/⌉ p.size.toNat) 1) :
    p.checkRange total = .ok () := by
  unfold checkRange
  rw [if_neg]
  rw [beyond_iff]
  omega

theorem checkRange_of_lt {total : UInt64}
    (beyond : max (total.toNat ⌈/⌉ p.size.toNat) 1 < p.number.toNat) :
    p.checkRange total = .error (.pageOutOfRange p.number (p.totalPages total)) := by
  unfold checkRange
  rw [if_pos]
  rwa [beyond_iff]

end PageRequest
end MissionTracking
