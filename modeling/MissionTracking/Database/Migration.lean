/-!
The steps that bring a database to its present form, each with the time of its making as a version.
-/
namespace MissionTracking

structure Migration where
  version : Nat
  description : String
  lines : List String
deriving DecidableEq, Repr

namespace Migration

def text (m : Migration) : String := String.join (m.lines.map (· ++ "\n"))

/-- The table of mission runs: the whole run as a document beside the values that queries look
at. -/
def createMissionRuns : Migration where
  version := 20240301000000
  description := "create mission runs"
  lines := [
    "-- Mission run aggregates. Tasks and inspections live inside payload; the scalar",
    "-- columns duplicate the attributes that queries filter and sort on.",
    "CREATE TABLE IF NOT EXISTS mission_runs (",
    "    id                  TEXT PRIMARY KEY,",
    "    external_mission_id TEXT UNIQUE,",
    "    mission_id          TEXT,",
    "    name                TEXT NOT NULL,",
    "    status              TEXT NOT NULL,",
    "    status_rank         SMALLINT NOT NULL,",
    "    description         TEXT,",
    "    status_reason       TEXT,",
    "    comment             TEXT,",
    "    asset_code          TEXT NOT NULL,",
    "    area_name           TEXT,",
    "    robot_id            TEXT NOT NULL,",
    "    robot_name          TEXT NOT NULL,",
    "    robot_model_type    TEXT NOT NULL,",
    "    desired_start_time  TIMESTAMPTZ NOT NULL,",
    "    start_time          TIMESTAMPTZ,",
    "    end_time            TIMESTAMPTZ,",
    "    estimated_duration  BIGINT,",
    "    payload             JSONB NOT NULL,",
    "    created_at          TIMESTAMPTZ NOT NULL DEFAULT NOW(),",
    "    updated_at          TIMESTAMPTZ NOT NULL DEFAULT NOW()",
    ");",
    "",
    "CREATE INDEX IF NOT EXISTS idx_mission_runs_status ON mission_runs (status);",
    "CREATE INDEX IF NOT EXISTS idx_mission_runs_robot_id ON mission_runs (robot_id);",
    "CREATE INDEX IF NOT EXISTS idx_mission_runs_asset_code ON mission_runs (lower(asset_code COLLATE \"C\"));",
    "CREATE INDEX IF NOT EXISTS idx_mission_runs_area_name ON mission_runs (lower(area_name COLLATE \"C\"));",
    "CREATE INDEX IF NOT EXISTS idx_mission_runs_desired_start_time ON mission_runs (desired_start_time);",
    "CREATE INDEX IF NOT EXISTS idx_mission_runs_name ON mission_runs (name COLLATE \"C\");"]

def all : List Migration := [createMissionRuns]

end Migration
end MissionTracking
