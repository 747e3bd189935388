/-!
The Gregorian calendar, continued in both directions, as days counted from 1 January 1970. The count
goes by years that begin in March, so that the day a leap year adds is the last of its year.
-/
namespace MissionTracking

structure Date where
  year : Int
  month : Nat
  day : Nat
deriving DecidableEq, Repr

namespace Date

def isLeap (year : Int) : Bool := decide (year % 4 = 0 ∧ (year % 100 ≠ 0 ∨ year % 400 = 0))

def daysInMonth (year : Int) : Nat → Nat
  | 2 => if isLeap year then 29 else 28
  | 4 | 6 | 9 | 11 => 30
  | _ => 31

def Valid (d : Date) : Prop :=
  1 ≤ d.month ∧ d.month ≤ 12 ∧ 1 ≤ d.day ∧ d.day ≤ daysInMonth d.year d.month

instance (d : Date) : Decidable d.Valid := by unfold Valid; infer_instance

/-- The days of a year that begins in March before its month with this number, March being zero. -/
def daysBefore (month : Nat) : Nat := (153 * month + 2) / 5

/-- Days since 1 January 1970. Four hundred years have 146097 days. -/
def toDays (d : Date) : Int :=
  let year := if d.month ≤ 2 then d.year - 1 else d.year
  let inEra := year % 400
  let dayOfYear : Int := daysBefore ((d.month + 9) % 12) + (d.day - 1 : Nat)
  year / 400 * 146097 + (inEra * 365 + inEra / 4 - inEra / 100 + dayOfYear) - 719468

def ofDays (days : Int) : Date :=
  let era := (days + 719468) / 146097
  let ofEra := ((days + 719468) % 146097).toNat
  let inEra := (ofEra - ofEra / 1460 + ofEra / 36524 - ofEra / 146096) / 365
  let ofYear := ofEra - (365 * inEra + inEra / 4 - inEra / 100)
  let month := (5 * ofYear + 2) / 153
  let day := ofYear - daysBefore month + 1
  let civil := if month < 10 then month + 3 else month - 9
  ⟨(inEra : Int) + era * 400 + (if civil ≤ 2 then 1 else 0), civil, day⟩

end Date
end MissionTracking
