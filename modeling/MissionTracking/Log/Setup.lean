import MissionTracking.Log.Filter
import MissionTracking.Settings.Basic
import MissionTracking.Text.Quoted

/-!
Setting up the log. Records that pass the filter go to the console and, when a directory is set and
can be created, also to a file in it. The log is set up once; later attempts change nothing.
-/
namespace MissionTracking.Log

structure Logger where
  filter : Filter
  json : Bool
  toFile : Bool
deriving DecidableEq, Repr

def effectiveLevel (s : LogSettings) : String :=
  match s.level with
  | some level => if Text.IsBlankText level then "info" else Text.trimmed level
  | none => "info"

namespace Record

def directoryFailed (error : String) : Record where
  severity := .warn
  component := .logging
  message := "Could not create log directory, logging to console only"
  fields := [("error", .text error)]

/-- The directory is shown as it was set, whether or not it could be created. -/
def started (level : String) (directory : Option String) : Record where
  severity := .info
  component := .logging
  message := "Structured logging initialized"
  fields := [("level", .text level),
    ("log_dir", .text (match directory with
      | some d => s!"Some({Text.quoted d})"
      | none => "None"))]
  hidden := ["pid"]

end Record

namespace Logger

/-- The logger that settings ask for. `reason` says why their directory cannot be created, if it
cannot. -/
def ofSettings (s : LogSettings) (reason : Option String) : Logger where
  filter := (Filter.ofText? (effectiveLevel s)).getD .standard
  json := s.json
  toFile := s.directory.isSome && reason.isNone

def setUp (current : Option Logger) (s : LogSettings) (reason : Option String) :
    Logger × List Record :=
  match current with
  | some logger => (logger, [])
  | none =>
    let failure := do
      let directory ← s.directory
      let reason ← reason
      some (Record.directoryFailed s!"{directory}: {reason}")
    (ofSettings s reason, failure.toList ++ [.started (effectiveLevel s) s.directory])

def passed (logger : Logger) (records : List Record) : List Record :=
  records.filter logger.filter.admits

end Logger
end MissionTracking.Log
