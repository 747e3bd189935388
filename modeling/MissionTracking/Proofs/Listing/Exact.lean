import MissionTracking.Proofs.Listing.Pages

/-!
Pages are counted exactly. The same steps are taken with operations that stop where a word would
fall short of the natural number, and they never stop: for every page that is accepted and every
total the words are the numbers that they stand for, and only the number of pages is cut off at the
largest word.
-/
namespace MissionTracking

namespace Word

def sub? (a b : UInt32) : Option UInt32 := if b ≤ a then some (a - b) else none

def add? (a b : UInt64) : Option UInt64 := if a.toNat + b.toNat < 2 ^ 64 then some (a + b) else none

def mul? (a b : UInt64) : Option UInt64 := if a.toNat * b.toNat < 2 ^ 64 then some (a * b) else none

def div? (a b : UInt64) : Option UInt64 := if b = 0 then none else some (a / b)

def mod? (a b : UInt64) : Option UInt64 := if b = 0 then none else some (a % b)

end Word

namespace PageRequest

def window? (p : PageRequest) : Option PageWindow := do
  let before ← Word.sub? p.number 1
  let offset ← Word.mul? before.toUInt64 p.size.toUInt64
  some ⟨offset, p.size⟩

def totalPages? (p : PageRequest) (total : UInt64) : Option UInt32 := do
  let whole ← Word.div? total p.size.toUInt64
  let rest ← Word.mod? total p.size.toUInt64
  let pages ← Word.add? whole (if rest = 0 then 0 else 1)
  some (if pages ≤ maxWord.toUInt64 then pages.toUInt32 else maxWord)

def checkRange? (p : PageRequest) (total : UInt64) : Option (Except TrackingError Unit) := do
  let pages ← p.totalPages? total
  some (if max pages 1 < p.number then .error (.pageOutOfRange p.number pages) else .ok ())

def metadata? (p : PageRequest) (total : UInt64) : Option PageMetadata := do
  let window ← p.window?
  let pages ← p.totalPages? total
  let next ← Word.add? window.offset window.limit.toUInt64
  some {
    currentPage := p.number
    totalPages := pages
    pageSize := p.size
    totalCount := total
    hasNext := decide (next < total)
    hasPrevious := decide (1 < p.number) }

variable (p : PageRequest) (total : UInt64)

theorem window?_eq : p.window? = some p.window := by
  have number : (p.number - 1).toNat = p.number.toNat - 1 := UInt32.toNat_sub_of_le _ _ p.number_pos
  have sum := p.pred_number_mul_size_add
  have bound := p.number_mul_size_lt
  have product : (p.number - 1).toUInt64.toNat * p.size.toUInt64.toNat < 2 ^ 64 := by
    rw [UInt32.toNat_toUInt64, UInt32.toNat_toUInt64, number]
    omega
  simp only [window?, Word.sub?, Word.mul?, if_pos p.number_pos, if_pos product,
    Option.bind_eq_bind, Option.bind_some, window]

theorem totalPages?_eq : p.totalPages? total = some (p.totalPages total) := by
  have divisor : p.size.toUInt64 ≠ 0 := by
    intro zero
    have none_left := congrArg UInt64.toNat zero
    rw [UInt32.toNat_toUInt64] at none_left
    have one := p.one_le_size
    exact absurd none_left (Nat.ne_of_gt one)
  have sum : (total / p.size.toUInt64).toNat +
      (if total % p.size.toUInt64 = 0 then 0 else 1 : UInt64).toNat < 2 ^ 64 := by
    obtain ⟨count, bound⟩ := p.whole_add_rest total
    rwa [count]
  simp only [totalPages?, Word.div?, Word.mod?, Word.add?, if_neg divisor, if_pos sum,
    Option.bind_eq_bind, Option.bind_some, totalPages]

theorem checkRange?_eq : p.checkRange? total = some (p.checkRange total) := by
  simp only [checkRange?, totalPages?_eq, Option.bind_eq_bind, Option.bind_some, checkRange]

theorem metadata?_eq : p.metadata? total = some (p.metadata total) := by
  have sum : p.window.offset.toNat + p.window.limit.toUInt64.toNat < 2 ^ 64 := by
    have bound := p.number_mul_size_lt
    have limit : p.window.limit.toUInt64.toNat = p.size.toNat := UInt32.toNat_toUInt64 _
    rw [offset_toNat, limit, pred_number_mul_size_add]
    exact bound
  simp only [metadata?, window?_eq, totalPages?_eq, Word.add?, if_pos sum, Option.bind_eq_bind,
    Option.bind_some, metadata]

theorem checkRange_error_iff :
    (∃ error, p.checkRange total = .error error) ↔
      1 < p.number.toNat ∧ total.toNat ≤ (p.number.toNat - 1) * p.size.toNat := by
  have positive := p.one_le_size
  have behind : total.toNat ⌈/⌉ p.size.toNat ≤ p.number.toNat - 1 ↔
      total.toNat ≤ p.size.toNat * (p.number.toNat - 1) := ceilDiv_le_iff_le_mul positive
  rw [Nat.mul_comm] at behind
  by_cases beyond : max (total.toNat ⌈/⌉ p.size.toNat) 1 < p.number.toNat
  · have refused := p.checkRange_of_lt beyond
    have first : 1 < p.number.toNat := by omega
    have before : total.toNat ≤ (p.number.toNat - 1) * p.size.toNat := behind.mp (by omega)
    exact ⟨fun _ => ⟨first, before⟩, fun _ => ⟨_, refused⟩⟩
  · have accepted := p.checkRange_of_le (Nat.le_of_not_lt beyond)
    constructor
    · rintro ⟨error, refused⟩
      cases accepted.symm.trans refused
    · rintro ⟨first, before⟩
      have pages := behind.mpr before
      omega

theorem hasNext_iff_totalPages (count : total.toNat ⌈/⌉ p.size.toNat ≤ 2 ^ 32 - 1) :
    (p.metadata total).hasNext = true ↔ p.number.toNat < (p.totalPages total).toNat := by
  have reached :
      total.toNat ⌈/⌉ p.size.toNat ≤ p.number.toNat ↔ total.toNat ≤ p.size.toNat * p.number.toNat :=
    ceilDiv_le_iff_le_mul p.one_le_size
  rw [Nat.mul_comm] at reached
  rw [hasNext_iff, totalPages_toNat, Nat.min_eq_left count]
  omega

theorem ofParts_ok {number size maximum : UInt32} {p : PageRequest}
    (accepted : ofParts number size maximum = .ok p) :
    p.number = number ∧ p.size.toNat = min size.toNat (max maximum.toNat 1) := by
  unfold ofParts at accepted
  split at accepted
  · split at accepted
    · cases accepted
      exact ⟨rfl, by rw [toNat_min, toNat_max]; rfl⟩
    · cases accepted
  · cases accepted

/-- For every page that is accepted and every total, no step falls below zero, runs over its word or
divides by zero. The page begins behind those before it, pages are counted by rounding up and cut
off at the largest word only, a page is refused exactly when it is not the first and all runs come
before it, whether or not their number is cut off, and there is a next page exactly when runs are
left. -/
theorem arithmetic_exact {number size maximum : UInt32} {p : PageRequest}
    (accepted : ofParts number size maximum = .ok p) (total : UInt64) :
    (p.number = number ∧ p.size.toNat = min size.toNat (max maximum.toNat 1) ∧ 1 ≤ p.size.toNat) ∧
    (p.window? = some p.window ∧ p.totalPages? total = some (p.totalPages total) ∧
      p.checkRange? total = some (p.checkRange total) ∧
      p.metadata? total = some (p.metadata total)) ∧
    (p.window.offset.toNat = (p.number.toNat - 1) * p.size.toNat ∧ p.window.limit = p.size) ∧
    (p.totalPages total).toNat = min (total.toNat ⌈/⌉ p.size.toNat) (2 ^ 32 - 1) ∧
    ((∃ error, p.checkRange total = .error error) ↔
      1 < p.number.toNat ∧ total.toNat ≤ (p.number.toNat - 1) * p.size.toNat) ∧
    ((p.metadata total).hasNext = true ↔ p.number.toNat * p.size.toNat < total.toNat) ∧
    (total.toNat ⌈/⌉ p.size.toNat ≤ 2 ^ 32 - 1 →
      ((p.metadata total).hasNext = true ↔ p.number.toNat < (p.totalPages total).toNat)) ∧
    ((p.metadata total).hasPrevious = true ↔ 1 < p.number.toNat) := by
  obtain ⟨same, size⟩ := ofParts_ok accepted
  refine ⟨⟨same, size, p.one_le_size⟩, ?_, ⟨p.offset_toNat, rfl⟩, p.totalPages_toNat total,
    p.checkRange_error_iff total, p.hasNext_iff total, p.hasNext_iff_totalPages total,
    p.hasPrevious_iff total⟩
  exact ⟨p.window?_eq, p.totalPages?_eq total, p.checkRange?_eq total, p.metadata?_eq total⟩

/-- The last page of the largest size, of as many runs as can be counted: it is in range, and runs
are left behind it, although it has the largest number of all. -/
theorem arithmetic_exact_largest :
    ∃ p, ofParts maxWord maxWord maxWord = .ok p ∧
    (¬ ∃ error, p.checkRange 18446744073709551615 = .error error) ∧
      (p.totalPages 18446744073709551615).toNat = 2 ^ 32 - 1 ∧
      (p.metadata 18446744073709551615).hasNext = true := by
  have accepted :
      ofParts maxWord maxWord maxWord = .ok ⟨maxWord, maxWord, by decide, by decide⟩ := rfl
  obtain ⟨_, _, _, pages, refused, next, _⟩ := arithmetic_exact accepted 18446744073709551615
  refine ⟨_, accepted, ?_, ?_, ?_⟩
  · rw [refused]
    decide
  · rw [pages]
    decide
  · rw [next]
    decide

end PageRequest
end MissionTracking
