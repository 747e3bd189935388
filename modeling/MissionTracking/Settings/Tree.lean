import MissionTracking.Settings.Scalar
import MissionTracking.Text.Lower

/-!
Settings before they are typed. A section is a branch whose members are found in any case, and trees
are laid over each other member by member: a branch adds to what is there, everything else takes its
place.
-/
namespace MissionTracking

inductive SettingTree where
  | unset
  | leaf (value : Scalar)
  | list (items : List SettingTree)
  | branch (members : List (String × SettingTree))
deriving Inhabited, BEq, Repr

namespace SettingTree

abbrev Members := List (String × SettingTree)

/-- The members with one of a name. It takes the place of an earlier one. -/
def Members.set (ms : Members) (name : String) (t : SettingTree) : Members :=
  ms.filter (fun m => m.1 != name) ++ [(name, t)]

def members : SettingTree → Members
  | .branch members => members
  | _ => []

def items : SettingTree → List SettingTree
  | .list items => items
  | _ => []

def child? (t : SettingTree) (key : String) : Option SettingTree :=
  t.members.lookup (Text.lowered key)

def withChild (t : SettingTree) (key : String) (child : SettingTree) : SettingTree :=
  .branch ((Text.lowered key, child) :: t.members.filter fun m => m.1 != Text.lowered key)

mutual

def put (t : SettingTree) (key : String) : SettingTree → SettingTree
  | .branch members => t.withChild key (((t.child? key).getD (.branch [])).putAll members)
  | .list items => t.withChild key (.list items)
  | .leaf value => t.withChild key (.leaf value)
  | .unset => t.withChild key .unset

/-- Lays members over a tree. A tree that is no branch stays when there are none. -/
def putAll (t : SettingTree) : Members → SettingTree
  | [] => t
  | m :: members => (t.putMember m).putAll members

def putMember (t : SettingTree) : String × SettingTree → SettingTree
  | (key, child) => t.put key child

end

/-- The list with enough items for a position, which counts from the end when it is negative, and
the index of the position. The new items are unset. -/
def reaching (items : List SettingTree) (position : Int) : List SettingTree × Nat :=
  if 0 ≤ position then
    (items ++ List.replicate (position.toNat + 1 - items.length) .unset, position.toNat)
  else (List.replicate (position.natAbs - items.length) .unset ++ items,
    items.length - position.natAbs)

end SettingTree
end MissionTracking
