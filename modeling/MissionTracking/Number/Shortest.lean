import MissionTracking.Number.Double

/-!
The shortest decimal text of a double: the fewest digits that round to it, of those the nearest and
of two equally near ones that away from zero, written with all zeros and without an exponent.
-/
namespace MissionTracking.Double
open Text

/-- Twice the distance from a double to each end of the reals that round to it, in units of a
quarter of its last place. Below a power of two the places are half as wide. -/
def spread (m : Nat) (e : Int) : Nat × Nat :=
  if m = minSignificand ∧ -1074 < e then (1, 2) else (2, 2)

/-- The decimal `d * 10 ^ k` rounds to `m * 2 ^ e`. The ends belong to it when `m` is even. -/
def reads (m : Nat) (e : Int) (d : Nat) (k : Int) : Bool :=
  let (up2, down2) := powerParts 2 (e - 2)
  let (up10, down10) := powerParts 10 k
  let point := d * up10 * down2
  let unit := up2 * down10
  let (below, above) := spread m e
  let lo := (4 * m - below) * unit
  let hi := (4 * m + above) * unit
  if m % 2 = 0 then lo ≤ point && point ≤ hi else lo < point && point < hi

/-- On the grid of multiples of `10 ^ k`, the neighbours of `m * 2 ^ e` that round to it, the nearer
one first and of two that are equally near the upper one. -/
def neighbours (m : Nat) (e k : Int) : List Nat :=
  let (up2, down2) := powerParts 2 e
  let (up10, down10) := powerParts 10 k
  let num := m * up2 * down10
  let den := up10 * down2
  let low := num / den
  let candidates := if 2 * (num % den) < den then [low, low + 1] else [low + 1, low]
  candidates.filter fun d => d != 0 && reads m e d k

def firstHit (m : Nat) (e : Int) : Nat → Int → Option (Nat × Int)
  | 0, _ => none
  | steps + 1, k =>
    match neighbours m e k with
    | d :: _ => some (d, k)
    | [] => firstHit m e steps (k - 1)

/-- The shortest decimal that rounds to a positive double. Seventeen digits always suffice. -/
def shortest (m : Nat) (e : Int) : Nat × Int :=
  let top : Int := (((Nat.log2 m : Int) + e) * 30103) / 100000 + 1
  (firstHit m e 20 top).getD (m, 0)

def positional (d : Nat) (k : Int) : List Char :=
  if 0 ≤ k then digits d ++ List.replicate k.toNat '0'
  else
    let places := (-k).toNat
    let ds := padded (places + 1) d
    let whole := ds.take (ds.length - places)
    let fraction := ((ds.drop (ds.length - places)).reverse.dropWhile (· = '0')).reverse
    if fraction.isEmpty then whole else whole ++ '.' :: fraction

def text : Double → String
  | .nan => "NaN"
  | .infinite negative => if negative then "-inf" else "inf"
  | .finite negative m e =>
    let body := if m = 0 then ['0'] else
      let (d, k) := shortest m e
      positional d k
    String.ofList (if negative then '-' :: body else body)

end MissionTracking.Double
