import MissionTracking.Text.Decimal

/-!
Decimal numbers with a point and an exponent, read as a whole significand and a power of ten.
Nothing is rounded here.
-/
namespace MissionTracking

/-- The number `significand * 10 ^ exponent`, with a sign that zero may carry too. -/
structure Scientific where
  negative : Bool
  significand : Nat
  exponent : Int
deriving DecidableEq, Repr

namespace Scientific
open Text

def exponent? : List Char → Option Int
  | [] => some 0
  | c :: cs => if c = 'e' ∨ c = 'E' then integer? cs else none

def unsigned? (negative : Bool) (cs : List Char) : Option Scientific := do
  let whole := cs.takeWhile Char.isDigit
  let rest := cs.dropWhile Char.isDigit
  let (fraction, rest) := match rest with
    | '.' :: ds => (ds.takeWhile Char.isDigit, ds.dropWhile Char.isDigit)
    | rest => ([], rest)
  if whole.isEmpty && fraction.isEmpty then none
  else do
    let exponent ← exponent? rest
    some ⟨negative, digitsValue (whole ++ fraction), exponent - fraction.length⟩

def ofChars? : List Char → Option Scientific
  | '+' :: cs => unsigned? false cs
  | '-' :: cs => unsigned? true cs
  | cs => unsigned? false cs

/-- The place of the leading digit: a nonzero number lies from `10 ^ magnitude` on and below ten
times that. -/
def magnitude (d : Scientific) : Int := (digits d.significand).length - 1 + d.exponent

end Scientific
end MissionTracking
