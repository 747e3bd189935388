import MissionTracking.Settings.Tree
import MissionTracking.Settings.Basic

/-!
Typed settings from a tree, and the tree of the settings. A section gives its settings by name, or
as a list in the order of their names; what is left out has its default, and what is no setting is
ignored.
-/
namespace MissionTracking

namespace SettingTree

def named? (names : List String) : SettingTree → Option Members
  | .branch members => some members
  | .list items => some (names.zip items)
  | _ => none

/-- A setting, or its default when it is left out. -/
def readFrom (given : Members) (name : String) (default : α)
    (read : SettingTree → Option α) : Option α :=
  match given.lookup name with
  | none => some default
  | some t => read t

def value? (convert : Scalar → Option α) : SettingTree → Option α
  | .leaf v => convert v
  | _ => none

def optionOf? (convert : Scalar → Option α) : SettingTree → Option (Option α)
  | .unset => some none
  | t => (t.value? convert).map some

def text? : SettingTree → Option String := value? fun v => some v.toText

def optionalText? : SettingTree → Option (Option String) := optionOf? fun v => some v.toText

def ofText (s : String) : SettingTree := .leaf (.text s)

def ofNat (n : Nat) : SettingTree := .leaf (.int n)

def ofBool (b : Bool) : SettingTree := .leaf (.bool b)

def ofOption (s : Option String) : SettingTree := s.elim .unset ofText

end SettingTree

open SettingTree

namespace DatabaseSettings

def ofTree? (t : SettingTree) : Option DatabaseSettings := do
  let given ← t.named? ["url", "max_connections", "acquire_timeout_seconds", "run_migrations"]
  let address ← readFrom given "url" standard.address text?
  let maxConnections ← readFrom given "max_connections" standard.maxConnections
    (value? Scalar.uint32?)
  let acquireTimeout ← readFrom given "acquire_timeout_seconds" standard.acquireTimeout
    (value? Scalar.uint64?)
  let runMigrations ← readFrom given "run_migrations" standard.runMigrations (value? Scalar.bool?)
  some { address, maxConnections, acquireTimeout, runMigrations }

def toTree (s : DatabaseSettings) : SettingTree :=
  .branch [("url", ofText s.address), ("max_connections", ofNat s.maxConnections.toNat),
    ("acquire_timeout_seconds", ofNat s.acquireTimeout.toNat),
    ("run_migrations", ofBool s.runMigrations)]

end DatabaseSettings

namespace PageLimits

def ofTree? (t : SettingTree) : Option PageLimits := do
  let given ← t.named? ["default_page_size", "max_page_size"]
  let defaultSize ← readFrom given "default_page_size" standard.defaultSize (value? Scalar.uint32?)
  let maxSize ← readFrom given "max_page_size" standard.maxSize (value? Scalar.uint32?)
  some { defaultSize, maxSize }

def toTree (l : PageLimits) : SettingTree :=
  .branch [("default_page_size", ofNat l.defaultSize.toNat),
    ("max_page_size", ofNat l.maxSize.toNat)]

end PageLimits

namespace FeedSettings

def ofTree? (t : SettingTree) : Option FeedSettings := do
  let given ← t.named? ["channel_capacity"]
  let capacity ← readFrom given "channel_capacity" standard.capacity (value? Scalar.uint64?)
  some { capacity }

def toTree (s : FeedSettings) : SettingTree :=
  .branch [("channel_capacity", ofNat s.capacity.toNat)]

end FeedSettings

namespace LogSettings

def ofTree? (t : SettingTree) : Option LogSettings := do
  let given ← t.named? ["level", "json", "log_dir"]
  let level ← readFrom given "level" standard.level optionalText?
  let json ← readFrom given "json" standard.json (value? Scalar.bool?)
  let directory ← readFrom given "log_dir" standard.directory optionalText?
  some { level, json, directory }

def toTree (s : LogSettings) : SettingTree :=
  .branch [("level", ofOption s.level), ("json", ofBool s.json), ("log_dir", ofOption s.directory)]

end LogSettings

namespace Settings

def ofTree? (t : SettingTree) : Option Settings := do
  let given ← t.named? ["environment", "database", "query", "events", "logging"]
  let environment ← readFrom given "environment" standard.environment text?
  let database ← readFrom given "database" .standard DatabaseSettings.ofTree?
  let query ← readFrom given "query" .standard PageLimits.ofTree?
  let feed ← readFrom given "events" .standard FeedSettings.ofTree?
  let log ← readFrom given "logging" .standard LogSettings.ofTree?
  some { environment, database, query, feed, log }

def toTree (s : Settings) : SettingTree :=
  .branch [("environment", ofText s.environment), ("database", s.database.toTree),
    ("query", s.query.toTree), ("events", s.feed.toTree), ("logging", s.log.toTree)]

end Settings
end MissionTracking
