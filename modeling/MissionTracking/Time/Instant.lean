import MissionTracking.Time.Calendar

/-!
Points in time: seconds from the beginning of 1970 in universal time and nanoseconds within the
second. A leap second is the last second of its minute with a second thousand million of
nanoseconds, so that it lies after every moment of that second and before the next one, and the
order is that of the pair.
-/
namespace MissionTracking

def secondsPerDay : Int := 86400

def minSecond : Int := -8334601228800

def maxSecond : Int := 8210266876799

def nanosPerSecond : Nat := 1000000000

structure Instant where
  second : Int
  nano : Nat
  inRange : minSecond ≤ second ∧ second ≤ maxSecond
  nano_lt : nano < 2 * nanosPerSecond
  leap : nanosPerSecond ≤ nano → second % 60 = 59
deriving DecidableEq

namespace Instant

instance : Ord Instant where
  compare a b := (compare a.second b.second).then (compare a.nano b.nano)

instance : LE Instant := ⟨fun a b => (compare a b).isLE = true⟩

instance (a b : Instant) : Decidable (a ≤ b) := inferInstanceAs (Decidable (_ = true))

def ofParts? (second : Int) (nano : Nat) : Option Instant :=
  if h : (minSecond ≤ second ∧ second ≤ maxSecond) ∧ nano < 2 * nanosPerSecond ∧
      (nanosPerSecond ≤ nano → second % 60 = 59) then
    some ⟨second, nano, h.1, h.2.1, h.2.2⟩
  else none

def ofSecond? (second : Int) : Option Instant := ofParts? second 0

def date (t : Instant) : Date := Date.ofDays (t.second / secondsPerDay)

def secondOfDay (t : Instant) : Nat := (t.second % secondsPerDay).toNat

/-- A reading of a calendar and a clock that stand ahead of universal time by a number of minutes.
The minute of a leap second has a second 60. -/
structure Local where
  date : Date
  hour : Nat
  minute : Nat
  second : Nat
  nano : Nat
  offset : Int

def Local.Valid (l : Local) : Prop :=
  l.date.Valid ∧ -262143 ≤ l.date.year ∧ l.date.year ≤ 262142 ∧ l.hour < 24 ∧ l.minute < 60 ∧
    l.second ≤ 60 ∧ l.nano < nanosPerSecond ∧ -1440 < l.offset ∧ l.offset < 1440

instance (l : Local) : Decidable l.Valid := by unfold Local.Valid; infer_instance

def ofLocal? (l : Local) : Option Instant :=
  if l.Valid then
    let leap := l.second = 60
    let second := l.date.toDays * secondsPerDay + l.hour * 3600 + l.minute * 60 +
      (if leap then 59 else l.second) - l.offset * 60
    ofParts? second (if leap then l.nano + nanosPerSecond else l.nano)
  else none

end Instant
end MissionTracking
