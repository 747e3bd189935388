import MissionTracking.Number.Shortest
import MissionTracking.Text.Lower

/-!
Single values as a source of settings gives them, and their conversion to the type of a setting.
Words for yes and no stand for numbers and numbers for words; what has no meaning for the type is
refused.
-/
namespace MissionTracking
open Text

inductive Scalar where
  | bool (value : Bool)
  | int (value : Int)
  | real (value : Double)
  | text (value : String)
deriving DecidableEq, Repr

namespace Scalar

def yesWords : List String := ["true", "on", "yes"]

def noWords : List String := ["false", "off", "no"]

def maxNatural : Nat := 18446744073709551615

def naturalOfText? (s : String) : Option Nat :=
  if lowered s ∈ yesWords then some 1
  else if lowered s ∈ noWords then some 0
  else
    match s.toList with
    | '+' :: cs => natural? cs
    | cs => natural? cs

/-- A whole number up to a limit. Reals are rounded, those out of range to the nearest end of 64
bits. -/
def natural? (limit : Nat) (v : Scalar) : Option Nat :=
  (match v with
    | .bool b => some b.toNat
    | .int n => if 0 ≤ n then some n.toNat else none
    | .real x => some (x.toNatClamped maxNatural)
    | .text s => naturalOfText? s).filter fun n => decide (n ≤ limit)

def uint32? (v : Scalar) : Option UInt32 := (v.natural? 4294967295).map UInt32.ofNat

def uint64? (v : Scalar) : Option UInt64 := (v.natural? maxNatural).map UInt64.ofNat

def bool? : Scalar → Option Bool
  | .bool b => some b
  | .int n => some (n != 0)
  | .real x => some !x.isZero
  | .text s =>
    if lowered s ∈ "1" :: yesWords then some true
    else if lowered s ∈ "0" :: noWords then some false
    else none

def toText : Scalar → String
  | .bool b => if b then "true" else "false"
  | .int n => String.ofList (if n < 0 then '-' :: digits n.natAbs else digits n.natAbs)
  | .real x => x.text
  | .text s => s

def int64? (cs : List Char) : Option Int := 
  (integer? cs).filter fun n => decide (-9223372036854775808 ≤ n ∧ n < 9223372036854775808)

/-- The meaning of the text of a variable: a truth value in any case, an integer, a real, or else
the text. -/
def ofVariable (value : String) : Scalar :=
  if lowered value = "true" then .bool true
  else if lowered value = "false" then .bool false
  else
    match int64? value.toList with
    | some n => .int n
    | none =>
      match Double.ofChars? value.toList with
      | some x => .real x
      | none => .text value

end Scalar
end MissionTracking
