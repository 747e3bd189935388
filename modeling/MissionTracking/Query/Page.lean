import MissionTracking.Error
import MissionTracking.Json.Record

/-!
Pages of a listing, counted from one. Numbers and sizes are words of 32 bits, offsets and totals
words of 64: the product of a page number and a size never overflows, and the number of pages is
held at the largest word.
-/
namespace MissionTracking
open Json

structure PageRequest where
  number : UInt32
  size : UInt32
  number_pos : 1 ≤ number
  size_pos : 1 ≤ size
deriving DecidableEq

structure PageWindow where
  offset : UInt64
  limit : UInt32
deriving DecidableEq, Repr

structure PageMetadata where
  currentPage : UInt32
  totalPages : UInt32
  pageSize : UInt32
  totalCount : UInt64
  hasNext : Bool
  hasPrevious : Bool
deriving DecidableEq, Repr

def maxWord : UInt32 := 4294967295

theorem one_le_min_max {size maximum : UInt32} (positive : 1 ≤ size) :
    1 ≤ min size (max maximum 1) := by
  have ceiling : 1 ≤ max maximum 1 := by
    simp only [Max.max]
    split
    · exact UInt32.le_refl 1
    · rename_i above
      exact UInt32.le_of_lt (UInt32.not_le.1 above)
  simp only [Min.min]
  split
  · exact positive
  · exact ceiling

namespace PageWindow

def unbounded : PageWindow := ⟨0, maxWord⟩

end PageWindow

namespace PageRequest

/-- Checks a page number and a size. A size above the maximum, which counts as at least one, is cut
down. -/
def ofParts (number size maximum : UInt32) : Except ValidationError PageRequest :=
  if hn : 1 ≤ number then
    if hs : 1 ≤ size then .ok ⟨number, min size (max maximum 1), hn, one_le_min_max hs⟩
    else .error (.pageSize size)
  else .error (.pageNumber number)

def window (p : PageRequest) : PageWindow := ⟨(p.number - 1).toUInt64 * p.size.toUInt64, p.size⟩

def totalPages (p : PageRequest) (total : UInt64) : UInt32 :=
  let size := p.size.toUInt64
  let pages := total / size + if total % size = 0 then 0 else 1
  if pages ≤ maxWord.toUInt64 then pages.toUInt32 else maxWord

/-- The first page exists even when there is nothing on it. -/
def checkRange (p : PageRequest) (total : UInt64) : Except TrackingError Unit :=
  if max (p.totalPages total) 1 < p.number then
    .error (.pageOutOfRange p.number (p.totalPages total))
  else .ok ()

def metadata (p : PageRequest) (total : UInt64) : PageMetadata where
  currentPage := p.number
  totalPages := p.totalPages total
  pageSize := p.size
  totalCount := total
  hasNext := decide (p.window.offset + p.window.limit.toUInt64 < total)
  hasPrevious := decide (1 < p.number)

end PageRequest

namespace PageMetadata

def ofJson? (j : Json) : Option PageMetadata := do
  let r ← j.record? ["currentPage", "totalPages", "pageSize", "totalCount", "hasNext",
    "hasPrevious"]
  let currentPage ← r.required "currentPage" uint32?
  let totalPages ← r.required "totalPages" uint32?
  let pageSize ← r.required "pageSize" uint32?
  let totalCount ← r.required "totalCount" uint64?
  let hasNext ← r.required "hasNext" bool?
  let hasPrevious ← r.required "hasPrevious" bool?
  some { currentPage, totalPages, pageSize, totalCount, hasNext, hasPrevious }

def toJson (m : PageMetadata) : Json :=
  .object [("currentPage", ofUInt32 m.currentPage), ("totalPages", ofUInt32 m.totalPages),
    ("pageSize", ofUInt32 m.pageSize), ("totalCount", ofUInt64 m.totalCount),
    ("hasNext", .bool m.hasNext), ("hasPrevious", .bool m.hasPrevious)]

end PageMetadata
end MissionTracking
