/-!
Log records. A record belongs to the component that emitted it and carries a message and further
fields, each a text or a number. Records are values: an operation returns those that it emitted, in
order.
-/
namespace MissionTracking.Log

inductive Severity where
  | trace
  | debug
  | info
  | warn
deriving DecidableEq, Repr

inductive Component where
  | sequencer
  | ingestor
  | service
  | queryEngine
  | configLoader
  | logging
deriving DecidableEq, Repr

inductive Value where
  | text (value : String)
  | number (value : Nat)
deriving DecidableEq, Repr

structure Record where
  severity : Severity
  component : Component
  message : String
  fields : List (String × Value)
  /-- The names of fields that differ from run to run, whose values are not kept. -/
  hidden : List String := []
deriving DecidableEq, Repr

namespace Severity

def text : Severity → String
  | .trace => "TRACE"
  | .debug => "DEBUG"
  | .info => "INFO"
  | .warn => "WARN"

/-- How many records there are of a severity, as a rank; the most important ones are the fewest. -/
def verbosity : Severity → Nat
  | .warn => 2
  | .info => 3
  | .debug => 4
  | .trace => 5

end Severity

namespace Component

def target : Component → String
  | .sequencer => "mission_run_core::ingestion::sequencer"
  | .ingestor => "mission_run_core::ingestion::status_event_ingestor"
  | .service => "mission_run_core::services::mission_run_service"
  | .queryEngine => "mission_run_core::query::engine"
  | .configLoader => "mission_run_core::config::loader"
  | .logging => "mission_run_core::logging"

end Component

/-- The message is a field as well. -/
def Record.hasField (r : Record) (name : String) : Bool :=
  name == "message" || r.fields.any (·.1 == name) || r.hidden.contains name

end MissionTracking.Log
