import MissionTracking.Time.Instant
import MissionTracking.Text.Decimal

/-!
Times as text. The exchange form joins date and clock by `T` and ends in `Z`; the readable form, for
messages, has a space and ends in `UTC`. Years from 0 to 9999 have four digits, all others a sign
and at least four. The fraction has 0, 3, 6 or 9 digits, the fewest that are exact. A leap second is
written as second 60.
-/
namespace MissionTracking
open Text

def yearText (year : Int) : List Char :=
  if 0 ≤ year ∧ year ≤ 9999 then padded 4 year.toNat
  else if year < 0 then '-' :: padded 4 year.natAbs
  else '+' :: padded 4 year.toNat

def Date.text (d : Date) : List Char :=
  yearText d.year ++ '-' :: padded 2 d.month ++ '-' :: padded 2 d.day

def fractionText (nano : Nat) : List Char :=
  if nano = 0 then []
  else if nano % 1000000 = 0 then '.' :: padded 3 (nano / 1000000)
  else if nano % 1000 = 0 then '.' :: padded 6 (nano / 1000)
  else '.' :: padded 9 nano

namespace Instant

def clockText (t : Instant) : List Char :=
  let s := t.secondOfDay
  let leap := nanosPerSecond ≤ t.nano
  padded 2 (s / 3600) ++ ':' :: padded 2 (s / 60 % 60) ++
    ':' :: padded 2 (s % 60 + if leap then 1 else 0) ++
    fractionText (if leap then t.nano - nanosPerSecond else t.nano)

def text (t : Instant) : String := String.ofList (t.date.text ++ 'T' :: t.clockText ++ ['Z'])

def readable (t : Instant) : String :=
  String.ofList (t.date.text ++ ' ' :: t.clockText ++ [' ', 'U', 'T', 'C'])

end Instant
end MissionTracking
