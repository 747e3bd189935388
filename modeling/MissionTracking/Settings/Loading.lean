import MissionTracking.Settings.Document
import MissionTracking.Settings.Layers
import MissionTracking.Settings.Sections
import MissionTracking.Settings.Validity
import MissionTracking.Log.Record

/-!
Loading settings for an environment. The base document comes first, then the document of the
environment, then the variables; each is laid over what came before, and the name of the environment
over all of them. A document that does not exist sets nothing.
-/
namespace MissionTracking

/-- What loading reads: the documents of a directory and the variables that override them, by their
names. -/
structure Surroundings where
  directory : String
  documents : List (String × String)
  overrides : List (String × String)

inductive LoadError where
  | unreadable
  | invalid (fault : SettingFault)
deriving DecidableEq, Repr

def detectEnvironment (vars : List (String × String)) : String :=
  Text.lowered (((vars.lookup "MISSION_RUN_ENV") <|> (vars.lookup "APP_ENV")).getD "development")

def Log.Record.loading (environment directory : String) : Log.Record where
  severity := .debug
  component := .configLoader
  message := "Loading mission run configuration"
  fields := [("environment", .text environment), ("config_dir", .text directory)]

namespace Surroundings

/-- The text of a TOML document, or else of a document that has the extension of a format beyond its
name. -/
def text? (s : Surroundings) (document : String) : Option (DocumentFormat × String) :=
  (s.documents.lookup document).map (.toml, ·) <|> DocumentFormat.extensions.findSome? fun e =>
    (s.documents.lookup s!"{document}.{e.1}").map (e.2, ·)

def document? (s : Surroundings) (document : String) : Option SettingTree.Members :=
  match s.text? document with
  | some (format, text) => format.members? text
  | none => some []

def overridden (s : Surroundings) : SettingTree.Members :=
  s.overrides.filterMap fun v => SettingTree.ofVariable? v.1 v.2

def layered? (s : Surroundings) (environment : String) : Option SettingTree := do
  let base ← s.document? "mission-run.toml"
  let specific ← s.document? s!"mission-run.{environment}.toml"
  some ((((Settings.standard.toTree.setAll base).setAll specific).setAll s.overridden).put
    "environment"
    (.ofText environment))

end Surroundings

namespace Settings

/-- The level of the log follows the environment when it is not set. -/
def withLevel (s : Settings) (environment : String) : Settings :=
  { s with
    log := { s.log with level := some (s.log.level.getD (LogSettings.levelFor environment)) } }

def load (s : Surroundings) (environment : String) : Except LoadError Settings × List Log.Record :=
  (match (s.layered? environment).bind ofTree? with
    | none => .error .unreadable
    | some settings => ((settings.withLevel environment).validated).mapError .invalid,
  [.loading environment s.directory])

def loadDetected (s : Surroundings) : Except LoadError Settings × List Log.Record :=
  load s (detectEnvironment s.overrides)

end Settings
end MissionTracking
