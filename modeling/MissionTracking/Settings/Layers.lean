import MissionTracking.Settings.Path

/-!
Trees of settings from documents and from variables, laid over each other. A key at the top of a
document is a path, a key in a section is a name. In the name of a variable two underscores stand
for the dot of a path.
-/
namespace MissionTracking

namespace SettingTree

def setAll (t : SettingTree) (given : Members) : SettingTree :=
  given.foldl (fun t g => setAt g.2 (Path.ofText g.1) t) t

def variablePrefix : List Char := "mission_run__".toList

/-- A dot for every two underscores, which are read from the left. -/
def withDots : List Char → List Char
  | '_' :: '_' :: cs => '.' :: withDots cs
  | c :: cs => c :: withDots cs
  | [] => []

/-- The path and the value of a variable. Names count in lower case; other variables are no
settings. -/
def ofVariable? (name value : String) : Option (String × SettingTree) :=
  let cs := Text.lower name.toList
  if variablePrefix.isPrefixOf cs then
    some (String.ofList (withDots (cs.drop variablePrefix.length)), .leaf (.ofVariable value))
  else none

end SettingTree
end MissionTracking
