import MissionTracking.Json.Holding
import MissionTracking.Json.Reader
import MissionTracking.Settings.Tree

/-!
Settings of a JSON document. Null is a place without a value, an integer that does not fit 64 bits
with a sign is a real, and of members with one name the last one counts.
-/
namespace MissionTracking
open Text

namespace Scalar

def ofLiteral? (literal : List Char) : Option Scalar :=
  (match literal with
    | '-' :: cs => (Literal.value? cs).map Double.neg
    | cs => Literal.value? cs).map .real

/-- An integer, or the real nearest to one that is too large. -/
def ofInt? (n : Int) : Option Scalar :=
  if -9223372036854775808 ≤ n ∧ n < 9223372036854775808 then some (.int n)
  else ofLiteral? (if n < 0 then '-' :: digits n.natAbs else digits n.natAbs)

end Scalar

mutual

def Json.settings? : Json → Option SettingTree
  | .null => some .unset
  | .bool b => some (.leaf (.bool b))
  | .int n => (Scalar.ofInt? n).map .leaf
  | .real literal => (Scalar.ofLiteral? literal.toList).map .leaf
  | .string s => some (.leaf (.text s))
  | .array items => (Json.items? items).map .list
  | .object members => (Json.members? [] members).map .branch
  | .unpaired => none

def Json.items? : List Json → Option (List SettingTree)
  | [] => some []
  | item :: items => do some ((← item.settings?) :: (← Json.items? items))

def Json.members? (before : SettingTree.Members) : List (String × Json) → Option SettingTree.Members
  | [] => some before
  | m :: members => do Json.members? (← Json.member? before m) members

def Json.member? (before : SettingTree.Members) : String × Json → Option SettingTree.Members
  | (name, value) => value.settings?.map (SettingTree.Members.set before name)

end

def Json.document? (text : String) : Option SettingTree.Members := do
  let value ← (Json.parse? text).filter (Json.isHeld Json.maxDepth)
  match ← value.settings? with
  | .branch members => some members
  | _ => none

end MissionTracking
