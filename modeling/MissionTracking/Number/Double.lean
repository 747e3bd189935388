import MissionTracking.Number.Scientific

/-!
Numbers of 53 binary digits with an exponent of 11 bits, and the rounding of a decimal number to the
nearest of them. All arithmetic is on whole numbers.
-/
namespace MissionTracking

inductive Double where
  | nan
  | infinite (negative : Bool)
  /-- The number `significand * 2 ^ exponent`, with its sign. -/
  | finite (negative : Bool) (significand : Nat) (exponent : Int)
deriving DecidableEq, Repr

namespace Double

def roundEven (num den : Nat) : Nat :=
  let q := num / den
  let twice := 2 * (num % den)
  if twice < den then q else if den < twice then q + 1 else q + q % 2

def roundUp (num den : Nat) : Nat := (2 * num + den) / (2 * den)

def minSignificand : Nat := 4503599627370496

def powerParts (base : Nat) (e : Int) : Nat × Nat :=
  if 0 ≤ e then (Nat.pow base e.toNat, 1) else (1, Nat.pow base (-e).toNat)

/-- The exponent that gives a positive `num / den` 53 binary digits, or the least exponent if that
is larger. -/
def exponentFor (num den : Nat) : Int :=
  let estimate : Int := (Nat.log2 num : Int) - Nat.log2 den - 52
  let (up, down) := powerParts 2 estimate
  let e := if num * down < minSignificand * (up * den) then estimate - 1 else estimate
  max e (-1074)

/-- The nearest double to a positive `num / den`, or infinity from half a unit above the largest one
on. -/
def ofRatio (negative : Bool) (num den : Nat) : Double :=
  let e := exponentFor num den
  let (up, down) := powerParts 2 e
  let m := roundEven (num * down) (den * up)
  let (m, e) := if m = 2 * minSignificand then (minSignificand, e + 1) else (m, e)
  if 971 < e then .infinite negative else .finite negative m e

/-- The nearest double. Far outside the range of the exponent the result is known without the
powers. -/
def ofScientific (d : Scientific) : Double :=
  if d.significand = 0 ∨ d.magnitude < -400 then .finite d.negative 0 0
  else if 400 < d.magnitude then .infinite d.negative
  else
    let (up, down) := powerParts 10 d.exponent
    ofRatio d.negative (d.significand * up) down

def named? (negative : Bool) (cs : List Char) : Option Double :=
  let name := String.ofList (cs.map Char.toLower)
  if name = "inf" ∨ name = "infinity" then some (.infinite negative)
  else if name = "nan" then some .nan
  else none

def ofChars? (cs : List Char) : Option Double :=
  match Scientific.ofChars? cs with
  | some d => some (ofScientific d)
  | none =>
    match cs with
    | '+' :: cs => named? false cs
    | '-' :: cs => named? true cs
    | cs => named? false cs

def isFinite : Double → Bool
  | .finite .. => true
  | _ => false

def isZero : Double → Bool
  | .finite _ m _ => m == 0
  | _ => false

/-- The nearest whole number, a half going up, held between zero and `limit`; zero for what is no
number. -/
def toNatClamped (limit : Nat) : Double → Nat
  | .nan => 0
  | .infinite negative => if negative then 0 else limit
  | .finite negative m e =>
    if negative then 0
    else
      let (up, down) := powerParts 2 e
      min limit (roundUp (m * up) down)

end Double
end MissionTracking
