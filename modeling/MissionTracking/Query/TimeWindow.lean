import MissionTracking.Error

/-!
Closed intervals of time. A bound that is not given leaves its side open, and a time that is not set
lies in every window.
-/
namespace MissionTracking

structure TimeWindow where
  min : Option Instant
  max : Option Instant
deriving DecidableEq

namespace TimeWindow

def bound (field : String) : Option Int64 → Except ValidationError (Option Instant)
  | none => .ok none
  | some second =>
    match Instant.ofSecond? second.toInt with
    | some t => .ok (some t)
    | none => .error (.filterValue field (.notRepresentable second))

def ofBounds (field : String) (min max : Option Int64) :
    Except ValidationError (Option TimeWindow) :=
  if min.isNone && max.isNone then .ok none
  else do
    let lower ← bound field min
    let upper ← bound field max
    match lower, upper with
    | some lo, some hi =>
      if lo ≤ hi then .ok (some ⟨lower, upper⟩) else .error (.filterValue field (.inverted lo hi))
    | _, _ => .ok (some ⟨lower, upper⟩)

def contains (w : TimeWindow) (t : Instant) : Bool :=
  (match w.min with
    | some lo => decide (lo ≤ t)
    | none => true) &&
  (match w.max with
    | some hi => decide (t ≤ hi)
    | none => true)

def admits (w : TimeWindow) : Option Instant → Bool
  | none => true
  | some t => w.contains t

end TimeWindow
end MissionTracking
