import MissionTracking.Settings.Yaml.Layout
import MissionTracking.Settings.Yaml.Node

/-!
Whole YAML documents. A text holds one document with a map, or none, which is an empty map.
Directives stand before the mark that begins the document.
-/
namespace MissionTracking.Yaml

def directives? : (hasVersion : Bool) → (handles : List (String × String)) → List Token →
    Option (List (String × String) × List Token)
  | hasVersion, handles, .version :: ts => if hasVersion then none else directives? true handles ts
  | hasVersion, handles, .handle name meaning :: ts =>
    if handles.any (·.1 == name) then none
    else directives? hasVersion ((name, meaning) :: handles) ts
  | _, handles, ts => some (handles, ts)

def isEnd (t : Token) : Bool := t == .documentEnd

def root? (ts : List Token) : Option (SettingTree × List Token) := do
  let (handles, body) ← directives? false [] ts
  let hasDirectives := decide (body.length < ts.length)
  match body with
  | .documentStart :: body =>
    match body with
    | [] => some (.unset, [])
    | .version :: _ | .handle .. :: _ | .documentStart :: _ | .documentEnd :: _ =>
      some (.unset, body)
    | body => content handles body
  | body => if hasDirectives then none else content handles body
where
  content (handles : List (String × String)) (ts : List Token) : Option
    (SettingTree × List Token) := do
    let (node, _, rest) ← node? (3 * ts.length + 3) true false ⟨handles, [], []⟩ ts
    some (node, rest)

def document? (cs : List Char) : Option SettingTree.Members := do
  match (← tokens? cs).dropWhile isEnd with
  | [] => some []
  | ts =>
    match ← root? ts with
    | (.branch members, rest) => if (rest.dropWhile isEnd).isEmpty then some members else none
    | _ => none

end MissionTracking.Yaml
