import MissionTracking.Settings.Ini
import MissionTracking.Settings.Json
import MissionTracking.Settings.Json5
import MissionTracking.Settings.Ron
import MissionTracking.Settings.Toml.Tree
import MissionTracking.Settings.Yaml.Document

/-!
Documents that hold settings. The extension of its name says in which format a document is written.
-/
namespace MissionTracking

inductive DocumentFormat where
  | toml
  | json
  | yaml
  | ini
  | ron
  | json5
deriving DecidableEq, Repr

namespace DocumentFormat

def extensions : List (String × DocumentFormat) :=
  [("toml", .toml), ("json", .json), ("yaml", .yaml), ("yml", .yaml), ("ini", .ini), ("ron", .ron),
    ("json5", .json5)]

def members? (format : DocumentFormat) (text : String) : Option SettingTree.Members :=
  match format with
  | .toml => (Toml.document? text.toList).map Toml.Node.branches
  | .json => Json.document? text
  | .yaml => Yaml.document? text.toList
  | .ini => Ini.document? text.toList
  | .ron => Ron.document? text.toList
  | .json5 => Json5.document? text.toList

end DocumentFormat
end MissionTracking
