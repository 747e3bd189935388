/-!
The tokens of a YAML document. Those that begin and end lists and maps are there also where only the
layout says so.
-/
namespace MissionTracking.Yaml

inductive Token where
  | version
  | handle (name meaning : String)
  | documentStart
  | documentEnd
  | listStart
  | mapStart
  | blockEnd
  | item
  | openList
  | closeList
  | openMap
  | closeMap
  | comma
  | key
  | value
  | alias (name : String)
  | anchor (name : String)
  | tag (handle suffix : String)
  /-- A text; one that is plain may mean something else. -/
  | scalar (isPlain : Bool) (text : String)
deriving DecidableEq, Repr

namespace Token

def isProperty : Token → Bool
  | .anchor _ | .tag .. => true
  | _ => false

end Token
end MissionTracking.Yaml
