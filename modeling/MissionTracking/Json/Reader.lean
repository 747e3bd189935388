import MissionTracking.Json.Token

/-!
Reading a JSON text. A machine takes the tokens one by one: its mode says what may come next and its
stack holds the containers that are still open, innermost first. A text is accepted when the machine
has completed one value and no container is open.
-/
namespace MissionTracking.Json

abbrev Key := Option String

/-- An open container, its contents in reverse. An open object waits for the value of `key`. -/
inductive Frame where
  | array (items : List Json)
  | object (members : List (Key × Json)) (key : Key)

inductive Mode where
  | value
  | firstItem
  | firstKey
  | key (members : List (Key × Json))
  | colon (members : List (Key × Json)) (key : Key)
  | after (value : Json)

def closed (members : List (Key × Json)) : Json :=
  match members.reverse.mapM fun m => m.1.map (·, m.2) with
  | some members => .object members
  | none => .unpaired

def beginValue (stack : List Frame) : Token → Option (Mode × List Frame)
  | .scalar j => some (.after j, stack)
  | .string s => some (.after (.string s), stack)
  | .unpaired => some (.after .unpaired, stack)
  | .openArray => some (.firstItem, stack)
  | .openObject => some (.firstKey, stack)
  | _ => none

def beginKey (members : List (Key × Json)) (stack : List Frame) : Token → Option (Mode × List Frame)
  | .string k => some (.colon members (some k), stack)
  | .unpaired => some (.colon members none, stack)
  | _ => none

def step : Mode × List Frame → Token → Option (Mode × List Frame)
  | (.value, stack), t => beginValue stack t
  | (.firstItem, stack), .closeArray => some (.after (.array []), stack)
  | (.firstItem, stack), t => beginValue (.array [] :: stack) t
  | (.firstKey, stack), .closeObject => some (.after (.object []), stack)
  | (.firstKey, stack), t => beginKey [] stack t
  | (.key members, stack), t => beginKey members stack t
  | (.colon members k, stack), .colon => some (.value, .object members k :: stack)
  | (.after j, .array items :: stack), .comma => some (.value, .array (j :: items) :: stack)
  | (.after j, .array items :: stack), .closeArray =>
    some (.after (.array (j :: items).reverse), stack)
  | (.after j, .object members k :: stack), .comma => some (.key ((k, j) :: members), stack)
  | (.after j, .object members k :: stack), .closeObject =>
    some (.after (closed ((k, j) :: members)), stack)
  | _, _ => none

def ofTokens? (ts : List Token) : Option Json :=
  match ts.foldlM step (Mode.value, []) with
  | some (.after j, []) => some j
  | _ => none

def parse? (text : String) : Option Json := (tokens? text.toList).bind ofTokens?

end MissionTracking.Json
