import MissionTracking.Settings.Toml.Document
import MissionTracking.Settings.Tree

/-!
Settings of a TOML document. How a table came about does not matter any more.
-/
namespace MissionTracking

mutual

def Toml.Node.tree : Toml.Node → SettingTree
  | .leaf value => .leaf value
  | .list items => .list (Toml.Node.trees items)
  | .table _ members => .branch (Toml.Node.branches members)
  | .series tables => .list (Toml.Node.trees tables)

def Toml.Node.trees : List Toml.Node → List SettingTree
  | [] => []
  | node :: nodes => node.tree :: Toml.Node.trees nodes

def Toml.Node.branches : List (String × Toml.Node) → SettingTree.Members
  | [] => []
  | m :: members => Toml.Node.named m :: Toml.Node.branches members

def Toml.Node.named : String × Toml.Node → String × SettingTree
  | (key, node) => (key, node.tree)

end

end MissionTracking
