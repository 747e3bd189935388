import MissionTracking.Settings.Tree
import MissionTracking.Settings.Yaml.Token
import MissionTracking.Text.Hexadecimal

/-!
Settings of a YAML document from its tokens. A plain text may be a number, a truth value or nothing;
a tag may say what it is. A map has its names at most once, and a name is a text or an integer. An
alias stands for the node that its anchor is on. Readers take their part from the front of the
tokens and leave the rest; `fuel` bounds their steps.
-/
namespace MissionTracking.Yaml
open Text

def inBase? (base : Nat) (cs : List Char) : Option Int := do
  let (sign, ds) := match cs with
    | '-' :: ds => ((-1 : Int), ds)
    | '+' :: ds => (1, ds)
    | ds => (1, ds)
  if ds.isEmpty || !ds.all fun c => (hexValue? c).any (· < base) then none
  else
    let n := sign * (ds.foldl (fun n c => n * base + (hexValue? c).getD 0) 0 : Nat)
    if -9223372036854775808 ≤ n ∧ n < 9223372036854775808 then some n else none

def integer? (cs : List Char) : Option Int :=
  match cs with
  | '0' :: 'x' :: ds => inBase? 16 ds <|> inBase? 10 cs
  | '0' :: 'o' :: ds => inBase? 8 ds <|> inBase? 10 cs
  | '+' :: ds => inBase? 10 ds <|> inBase? 10 cs
  | cs => inBase? 10 cs

def unboundedNames : List String :=
  [".inf", ".Inf", ".INF", "+.inf", "+.Inf", "+.INF", "-.inf", "-.Inf", "-.INF", ".nan",
    ".NaN", ".NAN"]

def plainMeaning? (text : String) : Option SettingTree :=
  if text = "" ∨ text = "~" ∨ text = "null" then some .unset
  else if text = "true" then some (.leaf (.bool true))
  else if text = "false" then some (.leaf (.bool false))
  else if text ∈ unboundedNames then none
  else
    match integer? text.toList with
    | some n => some (.leaf (.int n))
    | none =>
      match (Double.ofChars? text.toList).filter fun _ => text.toList.any Char.isDigit with
      | some x => some (.leaf (.real x))
      | none => some (.leaf (.text text))

/-- What a plain text means under a tag of the format. What does not have its form has no value. -/
def taggedMeaning? (suffix text : String) : Option SettingTree :=
  if suffix = "bool" then
    some (if text = "true" then .leaf (.bool true)
      else if text = "false" then .leaf (.bool false)
      else .unset)
  else if suffix = "int" then
    some (((inBase? 10 text.toList).map fun n => .leaf (.int n)).getD .unset)
  else if suffix = "float" then
    if text ∈ unboundedNames then none
    else
      some (((Double.ofChars? text.toList).filter fun _ => text.toList.any Char.isDigit).elim
        .unset fun x => .leaf (.real x))
  else if suffix = "null" then some .unset
  else some (.leaf (.text text))

/-- What has been read besides: what handles stand for, the anchors by their names, and the nodes
that are complete, by the numbers of their anchors. -/
structure Known where
  handles : List (String × String)
  anchors : List (String × Nat)
  nodes : List (Nat × SettingTree)

def formatTag : String := "tag:yaml.org,2002:"

namespace Known

/-- The meaning of the handle of a tag; one between two signs has to be declared. -/
def meaning? (k : Known) (handle suffix : String) : Option String :=
  if handle = "!!" then some ((k.handles.lookup handle).getD formatTag)
  else
    match k.handles.lookup handle with
    | some meaning => some meaning
    | none =>
      if 2 ≤ handle.length ∧ handle.startsWith "!" ∧ handle.endsWith "!" ∧ suffix ≠ "" then none
      else some handle

def withAnchor (k : Known) (name : Option String) : Known :=
  match name with
  | some name => { k with anchors := (name, k.anchors.length) :: k.anchors }
  | none => k

def withNode (k : Known) (number : Option Nat) (node : SettingTree) : Known :=
  match number with
  | some n => { k with nodes := (n, node) :: k.nodes }
  | none => k

end Known

structure Properties where
  tag : Option (String × String)
  anchor : Option String

def properties : List Token → Properties × List Token
  | .anchor name :: .tag handle suffix :: ts | .tag handle suffix :: .anchor name :: ts =>
    (⟨some (handle, suffix), some name⟩, ts)
  | .anchor name :: ts => (⟨none, some name⟩, ts)
  | .tag handle suffix :: ts => (⟨some (handle, suffix), none⟩, ts)
  | ts => (⟨none, none⟩, ts)

def scalarMeaning? (tag : Option (String × String)) (isPlain : Bool) (text : String) :
    Option SettingTree :=
  if !isPlain then some (.leaf (.text text))
  else
    match tag with
    | none => plainMeaning? text
    | some (handle, suffix) =>
      if handle = formatTag then taggedMeaning? suffix text else some (.leaf (.text text))

def name? : SettingTree → Option String
  | .leaf (.text s) => some s
  | .leaf (.int n) => some (Scalar.int n).toText
  | _ => none

/-- The members of a map, whose keys are all different. Two keys may have one name; then the later
one counts. -/
def branch? (entries : List (SettingTree × SettingTree)) : Option SettingTree := do
  if (entries.map (·.1)).eraseDups.length < entries.length then none
  else
    let named ← entries.mapM fun e => (name? e.1).map (·, e.2)
    some (.branch (named.foldl (fun ms m => SettingTree.Members.set ms m.1 m.2) []))

mutual

/-- A node. `inBlock` says whether layout may begin lists and maps, `isValue` whether a list may
begin without being indented. -/
def node? : (fuel : Nat) → (inBlock isValue : Bool) → Known → List Token →
    Option (SettingTree × Known × List Token)
  | 0, _, _, _, _ => none
  | fuel + 1, inBlock, isValue, k, ts =>
    match ts with
    | .alias name :: ts => do
      let number ← k.anchors.lookup name
      some ((k.nodes.lookup number).getD .unset, k, ts)
    | ts => do
      let (p, ts) := properties ts
      let tag ← p.tag.mapM fun t => (k.meaning? t.1 t.2).map (·, t.2)
      let k := k.withAnchor p.anchor
      let number := p.anchor.map fun _ => k.anchors.length - 1
      let (node, k, ts) ← content? fuel inBlock isValue (p.tag.isSome || p.anchor.isSome) tag k ts
      some (node, k.withNode number node, ts)

/-- A node without what stands before it. After that it may be empty. -/
def content? :
    (fuel : Nat) → (inBlock isValue mayBeEmpty : Bool) → (tag : Option (String × String)) → Known →
    List Token → Option (SettingTree × Known × List Token)
  | 0, _, _, _, _, _, _ => none
  | fuel + 1, inBlock, isValue, mayBeEmpty, tag, k, ts =>
    match ts with
    | .scalar isPlain text :: ts => (scalarMeaning? tag isPlain text).map (·, k, ts)
    | .openList :: ts => (flowItems? fuel true k ts).map fun (items, k, ts) => (.list items, k, ts)
    | .openMap :: ts => do
      let (entries, k, ts) ← flowEntries? fuel true k ts
      some (← branch? entries, k, ts)
    | _ => do
      match inBlock, isValue, ts with
      | _, true, .item :: _ =>
        let (items, k, ts) ← looseItems? fuel k ts
        some (.list items, k, ts)
      | true, _, .listStart :: ts =>
        let (items, k, ts) ← blockItems? fuel k ts
        some (.list items, k, ts)
      | true, _, .mapStart :: ts =>
        let (entries, k, ts) ← blockEntries? fuel k ts
        some (← branch? entries, k, ts)
      | _, _, ts => if mayBeEmpty then (scalarMeaning? tag true "").map (·, k, ts) else none

def blockItems? : (fuel : Nat) → Known → List Token → Option (List SettingTree × Known × List Token)
  | 0, _, _ => none
  | fuel + 1, k, ts =>
    match ts with
    | .blockEnd :: ts => some ([], k, ts)
    | .item :: ts => do
      let (item, k, ts) ← match ts with
        | .item :: _ | .blockEnd :: _ => some (.unset, k, ts)
        | ts => node? fuel true false k ts
      let (items, k, ts) ← blockItems? fuel k ts
      some (item :: items, k, ts)
    | _ => none

def looseItems? : (fuel : Nat) → Known → List Token → Option (List SettingTree × Known × List Token)
  | 0, _, _ => none
  | fuel + 1, k, ts =>
    match ts with
    | .item :: ts => do
      let (item, k, ts) ← match ts with
        | .item :: _ | .key :: _ | .value :: _ | .blockEnd :: _ => some (.unset, k, ts)
        | ts => node? fuel true false k ts
      let (items, k, ts) ← looseItems? fuel k ts
      some (item :: items, k, ts)
    | ts => some ([], k, ts)

def blockEntries? : (fuel : Nat) → Known → List Token →
    Option (List (SettingTree × SettingTree) × Known × List Token)
  | 0, _, _ => none
  | fuel + 1, k, ts =>
    match ts with
    | .blockEnd :: ts => some ([], k, ts)
    | .key :: ts => do
      let (key, k, ts) ← blockSide? fuel k ts
      blockEntry? fuel key k ts
    | .value :: _ => blockEntry? fuel .unset k ts
    | _ => none

def blockEntry? : (fuel : Nat) → (key : SettingTree) → Known → List Token →
    Option (List (SettingTree × SettingTree) × Known × List Token)
  | 0, _, _, _ => none
  | fuel + 1, key, k, ts => do
    let (value, k, ts) ← match ts with
      | .value :: ts => blockSide? fuel k ts
      | ts => some (.unset, k, ts)
    let (entries, k, ts) ← blockEntries? fuel k ts
    some ((key, value) :: entries, k, ts)

def blockSide? : (fuel : Nat) → Known → List Token → Option (SettingTree × Known × List Token)
  | 0, _, _ => none
  | fuel + 1, k, ts =>
    match ts with
    | .key :: _ | .value :: _ | .blockEnd :: _ => some (.unset, k, ts)
    | ts => node? fuel true true k ts

def flowItems? : (fuel : Nat) → (isFirst : Bool) → Known → List Token →
    Option (List SettingTree × Known × List Token)
  | 0, _, _, _ => none
  | fuel + 1, isFirst, k, ts =>
    match isFirst, ts with
    | _, .closeList :: ts => some ([], k, ts)
    | false, .comma :: .closeList :: ts => some ([], k, ts)
    | false, .comma :: ts | true, ts => do
      let (item, k, ts) ← match ts with
        | .key :: ts => singleEntry? fuel k ts
        | ts => node? fuel false false k ts
      let (items, k, ts) ← flowItems? fuel false k ts
      some (item :: items, k, ts)
    | _, _ => none

def singleEntry? : (fuel : Nat) → Known → List Token → Option (SettingTree × Known × List Token)
  | 0, _, _ => none
  | fuel + 1, k, ts => do
    let (key, k, ts) ← match ts with
      | .value :: ts | .comma :: ts | .closeList :: ts => some (.unset, k, ts)
      | ts => node? fuel false false k ts
    let (value, k, ts) ← match ts with
      | .value :: ts =>
        match ts with
        | .comma :: _ | .closeList :: _ => some (.unset, k, ts)
        | ts => node? fuel false false k ts
      | ts => some (.unset, k, ts)
    some (← branch? [(key, value)], k, ts)

def flowEntries? : (fuel : Nat) → (isFirst : Bool) → Known → List Token →
    Option (List (SettingTree × SettingTree) × Known × List Token)
  | 0, _, _, _ => none
  | fuel + 1, isFirst, k, ts =>
    match isFirst, ts with
    | _, .closeMap :: ts => some ([], k, ts)
    | false, .comma :: .closeMap :: ts => some ([], k, ts)
    | false, .comma :: ts | true, ts => do
      let (key, mayHaveValue, k, ts) ← match ts with
        | .key :: ts =>
          match ts with
          | .value :: _ | .comma :: _ | .closeMap :: _ => some (.unset, true, k, ts)
          | ts => (node? fuel false false k ts).map fun (key, k, ts) => (key, true, k, ts)
        | .value :: _ => some (.unset, true, k, ts)
        | ts => (node? fuel false false k ts).map fun (key, k, ts) => (key, false, k, ts)
      let (value, k, ts) ← match mayHaveValue, ts with
        | true, .value :: ts =>
          match ts with
          | .comma :: _ | .closeMap :: _ => some (.unset, k, ts)
          | ts => node? fuel false false k ts
        | _, ts => some (.unset, k, ts)
      let (entries, k, ts) ← flowEntries? fuel false k ts
      some ((key, value) :: entries, k, ts)
    | _, _ => none

end

end MissionTracking.Yaml
