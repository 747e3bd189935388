import MissionTracking.Json.Basic
import MissionTracking.Number.Coarse

/-!
Values that are held before their type is known. A value that names its own variant is held as a
whole until the name has been seen, so everything in it must have content: numbers lie in range, no
string has half of a surrogate pair, and containers are not nested too deeply. Elsewhere members
that are no field are passed over unseen.
-/
namespace MissionTracking.Json

def maxDepth : Nat := 127

/-- Everything in the value has content, and containers are nested at most `depth` deep. -/
def isHeld : Nat → Json → Bool
  | _, .int n => decide (n.natAbs ≤ Literal.maxWord) || Literal.isInRange (Text.digits n.natAbs)
  | _, .real literal => Literal.isInRange (literal.toList.dropWhile (· = '-'))
  | _, .unpaired => false
  | 0, .array _ | 0, .object _ => false
  | depth + 1, .array items => items.all (isHeld depth)
  | depth + 1, .object members => members.all fun m => isHeld depth m.2
  | _, _ => true

end MissionTracking.Json
