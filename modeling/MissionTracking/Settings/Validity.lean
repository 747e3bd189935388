import MissionTracking.Settings.Basic
import MissionTracking.Text.Blank

/-!
What settings must satisfy before they are used. The first fault in the order of the checks is the
one that is reported.
-/
namespace MissionTracking

inductive SettingFault where
  | noAddress
  | noConnections
  | noDefaultSize
  | noMaxSize
  | defaultAboveMax (limits : PageLimits)
  | noCapacity
deriving DecidableEq, Repr

namespace SettingFault

def refused (field value reason : String) : String :=
  s!"Invalid value '{value}' for {field}: {reason}"

def message : SettingFault → String
  | .noAddress => "Missing required configuration field 'database.url' in database configuration"
  | .noConnections => refused "database.max_connections" "0" "pool size must be greater than 0"
  | .noDefaultSize => refused "query.default_page_size" "0" "page size must be greater than 0"
  | .noMaxSize => refused "query.max_page_size" "0" "page size must be greater than 0"
  | .defaultAboveMax limits =>
    refused "query.default_page_size" s!"{limits.defaultSize}"
      s!"must not exceed query.max_page_size ({limits.maxSize})"
  | .noCapacity => refused "events.channel_capacity" "0" "channel capacity must be greater than 0"

end SettingFault

namespace Settings

def fault? (s : Settings) : Option SettingFault :=
  (if Text.IsBlankText s.database.address then some .noAddress else none) <|>
  (if s.database.maxConnections = 0 then some .noConnections else none) <|>
  (if s.query.defaultSize = 0 then some .noDefaultSize else none) <|>
  (if s.query.maxSize = 0 then some .noMaxSize else none) <|>
  (if s.query.maxSize < s.query.defaultSize then some (.defaultAboveMax s.query) else none) <|>
  (if s.feed.capacity = 0 then some .noCapacity else none)

def validated (s : Settings) : Except SettingFault Settings :=
  match s.fault? with
  | some fault => .error fault
  | none => .ok s

end Settings
end MissionTracking
