import MissionTracking.Number.Double

/-!
The value of number literals. A literal is evaluated coarsely: as many leading digits as fit a word
of 64 bits are taken as a whole number, and its nearest double is multiplied or divided by the
nearest double of a power of ten. A literal is in range when the product is finite, so close to the
largest double the range ends a little too early.
-/
namespace MissionTracking

namespace Double

def ofNat (n : Nat) : Double := if n = 0 then .finite false 0 0 else ofRatio false n 1

def mul : Double → Double → Double
  | .nan, _ | _, .nan => .nan
  | .finite a m e, .finite b n f =>
    if m * n = 0 then .finite (a != b) 0 0
    else
      let (up, down) := powerParts 2 (e + f)
      ofRatio (a != b) (m * n * up) down
  | .infinite a, .infinite b => .infinite (a != b)
  | .infinite a, .finite b n _ | .finite b n _, .infinite a =>
    if n = 0 then .nan else .infinite (a != b)

def div : Double → Double → Double
  | .nan, _ | _, .nan | .infinite _, .infinite _ => .nan
  | .infinite a, .finite b _ _ => .infinite (a != b)
  | .finite a _ _, .infinite b => .finite (a != b) 0 0
  | .finite a m e, .finite b n f =>
    if n = 0 then if m = 0 then .nan else .infinite (a != b)
    else if m = 0 then .finite (a != b) 0 0
    else
      let (up, down) := powerParts 2 (e - f)
      ofRatio (a != b) (m * up) (n * down)

def neg : Double → Double
  | .nan => .nan
  | .infinite negative => .infinite !negative
  | .finite negative m e => .finite (!negative) m e

end Double

namespace Literal
open Text

def maxWord : Nat := 18446744073709551615

def push (n : Nat) (digit : Char) : Nat := n * 10 + (digit.toNat - '0'.toNat)

/-- The digits before a point: the number that leading ones form in a word, and how many are left
over. -/
def leading (digits : List Char) : Nat × Nat :=
  digits.foldl
    (fun (n, left) d => if left = 0 ∧ push n d ≤ maxWord then (push n d, 0) else (n, left + 1))
    (0, 0)

/-- The digits after a point: the number with those that still fit the word, and how many these
are. -/
def trailing (n : Nat) : List Char → Nat × Nat
  | [] => (n, 0)
  | d :: ds =>
    if push n d ≤ maxWord then
      let (m, taken) := trailing (push n d) ds
      (m, taken + 1)
    else (n, 0)

def maxPower : Nat := 308

def power (k : Nat) : Double := .ofNat (Nat.pow 10 k)

/-- A double over a power of ten. Beyond the powers it takes several steps, at most three until
nothing is left. -/
def reduced : (steps : Nat) → Double → Nat → Double
  | 0, x, _ => x
  | steps + 1, x, k =>
    if k ≤ maxPower then x.div (power k) else reduced steps (x.div (power maxPower)) (k - maxPower)

def scaled? (n : Nat) (exponent : Int) : Option Double :=
  if n = 0 then some (.ofNat 0)
  else if exponent < 0 then some (reduced 4 (.ofNat n) exponent.natAbs)
  else if exponent ≤ maxPower then
    (some ((Double.ofNat n).mul (power exponent.toNat))).filter Double.isFinite
  else none

def value? (cs : List Char) : Option Double :=
  let (n, left) := leading (cs.takeWhile Char.isDigit)
  let rest := cs.dropWhile Char.isDigit
  let (n, taken) := match rest with
    | '.' :: ds => trailing n (ds.takeWhile Char.isDigit)
    | _ => (n, 0)
  let rest := match rest with
    | '.' :: ds => ds.dropWhile Char.isDigit
    | rest => rest
  scaled? n ((Scientific.exponent? rest).getD 0 + left - taken)

def isInRange (cs : List Char) : Bool := (value? cs).isSome

end Literal
end MissionTracking
