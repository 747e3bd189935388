import MissionTracking.Query.Plan

/-!
The settings of the program, their defaults and their documents. Every setting and every section of
a document may be left out and then has its default.
-/
namespace MissionTracking
open Json

structure DatabaseSettings where
  address : String
  maxConnections : UInt32
  /-- Seconds. -/
  acquireTimeout : UInt64
  runMigrations : Bool
deriving DecidableEq, Repr

structure FeedSettings where
  capacity : UInt64
deriving DecidableEq, Repr

structure LogSettings where
  level : Option String
  json : Bool
  directory : Option String
deriving DecidableEq, Repr

structure Settings where
  environment : String
  database : DatabaseSettings
  query : PageLimits
  feed : FeedSettings
  log : LogSettings
deriving DecidableEq, Repr

namespace DatabaseSettings

def standard : DatabaseSettings := ⟨"postgresql://localhost/mission_runs_development", 10, 5, false⟩

def ofJson? (j : Json) : Option DatabaseSettings := do
  let r ← j.record? ["url", "max_connections", "acquire_timeout_seconds", "run_migrations"]
  let address ← r.withDefault "url" standard.address string?
  let maxConnections ← r.withDefault "max_connections" standard.maxConnections uint32?
  let acquireTimeout ← r.withDefault "acquire_timeout_seconds" standard.acquireTimeout uint64?
  let runMigrations ← r.withDefault "run_migrations" standard.runMigrations bool?
  some { address, maxConnections, acquireTimeout, runMigrations }

def toJson (s : DatabaseSettings) : Json :=
  .object [("url", .string s.address), ("max_connections", ofUInt32 s.maxConnections),
    ("acquire_timeout_seconds", ofUInt64 s.acquireTimeout),
    ("run_migrations", .bool s.runMigrations)]

end DatabaseSettings

namespace PageLimits

def ofJson? (j : Json) : Option PageLimits := do
  let r ← j.record? ["default_page_size", "max_page_size"]
  let defaultSize ← r.withDefault "default_page_size" standard.defaultSize uint32?
  let maxSize ← r.withDefault "max_page_size" standard.maxSize uint32?
  some { defaultSize, maxSize }

def toJson (l : PageLimits) : Json :=
  .object [("default_page_size", ofUInt32 l.defaultSize), ("max_page_size", ofUInt32 l.maxSize)]

end PageLimits

namespace FeedSettings

def standard : FeedSettings := ⟨1000⟩

def ofJson? (j : Json) : Option FeedSettings := do
  let r ← j.record? ["channel_capacity"]
  let capacity ← r.withDefault "channel_capacity" standard.capacity uint64?
  some { capacity }

def toJson (s : FeedSettings) : Json := .object [("channel_capacity", ofUInt64 s.capacity)]

end FeedSettings

namespace LogSettings

def standard : LogSettings := ⟨none, false, none⟩

def levelFor (environment : String) : String :=
  if Text.foldCase environment = "production" then "info" else "debug"

def ofJson? (j : Json) : Option LogSettings := do
  let r ← j.record? ["level", "json", "log_dir"]
  let level ← r.optional "level" string?
  let json ← r.withDefault "json" standard.json bool?
  let directory ← r.optional "log_dir" string?
  some { level, json, directory }

def toJson (s : LogSettings) : Json :=
  .object [("level", ofOption .string s.level), ("json", .bool s.json),
    ("log_dir", ofOption .string s.directory)]

end LogSettings

namespace Settings

def standard : Settings := ⟨"", .standard, .standard, .standard, .standard⟩

def ofJson? (j : Json) : Option Settings := do
  let r ← j.record? ["environment", "database", "query", "events", "logging"]
  let environment ← r.withDefault "environment" standard.environment string?
  let database ← r.withDefault "database" .standard DatabaseSettings.ofJson?
  let query ← r.withDefault "query" .standard PageLimits.ofJson?
  let feed ← r.withDefault "events" .standard FeedSettings.ofJson?
  let log ← r.withDefault "logging" .standard LogSettings.ofJson?
  some { environment, database, query, feed, log }

def toJson (s : Settings) : Json :=
  .object [("environment", .string s.environment), ("database", s.database.toJson),
    ("query", s.query.toJson), ("events", s.feed.toJson), ("logging", s.log.toJson)]

end Settings
end MissionTracking
