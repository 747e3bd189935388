import MissionTracking.Settings.Yaml.Cursor
import MissionTracking.Settings.Yaml.Folding

/-!
Texts of a YAML document without quotes. A plain text ends before a colon or a comment with white
space next to it, between brackets also before their signs, and where a line is indented less than
it.
-/
namespace MissionTracking.Yaml

def isPlainAt (inFlow : Bool) : List Char → Bool
  | [] => false
  | ':' :: cs => !(endsWord cs || (inFlow && cs.head?.any isFlowSign))
  | c :: _ => !(isBreak c || isSpace c || (inFlow && isFlowSign c))

def plainWord (inFlow : Bool) : List Char → List Char
  | [] => []
  | c :: cs => if isPlainAt inFlow (c :: cs) then c :: plainWord inFlow cs else []

/-- White space and ends of lines. Among the white space before the indent a tab stands only on an
empty line. -/
def plainGap? (indent : Int) : (fuel : Nat) → Gap → Cursor → Option (Gap × Cursor)
  | 0, _, _ => none
  | fuel + 1, g, c =>
    match c.rest with
    | x :: _ =>
      if isBreak x then
        plainGap? indent fuel
          (if c.isLeading then { g with breaks := g.breaks + 1 } else ⟨[], 1, false⟩) c.overBreak
      else if isSpace x then
        if !c.isLeading then plainGap? indent fuel (g.withSpace x) (c.overSpaces 1)
        else if x = '\t' ∧ (c.column : Int) < indent then do
          let c ← c.toLineEnd?
          plainGap? indent fuel g c
        else plainGap? indent fuel g (c.overSpaces 1)
      else some (g, c)
    | [] => some (g, c)

/-- The words of a plain text, in reverse before `done`, with the gaps between them folded. -/
def plainBody? (inFlow : Bool) (indent : Int) : (fuel : Nat) → (done : List Char) → Gap → Cursor →
    Option (List Char × Cursor)
  | 0, _, _, _ => none
  | fuel + 1, done, gap, c => do
    if c.isBetweenDocuments || c.head? == some '#' then some (done, c)
    else if inFlow && c.head? == some '-' && (c.rest.drop 1).head?.any isFlowSign then none
    else
      let word := plainWord inFlow c.rest
      let (done, gap, c) :=
        if word.isEmpty then (done, gap, c)
        else (word.reverse ++ (gap.folded.reverse ++ done), Gap.none, c.past word.length)
      if c.head?.any fun x => isBreak x || isSpace x then
        let (gap, c) ← plainGap? indent (c.rest.length + 1) gap c
        if !inFlow && decide ((c.column : Int) < indent) then some (done, c)
        else plainBody? inFlow indent fuel done gap c
      else some (done, c)

def plain? (inFlow : Bool) (indent : Int) (c : Cursor) : Option (String × Cursor) := do
  if inFlow && decide ((c.column : Int) < indent) then none
  else
    let (body, after) ← plainBody? inFlow indent (c.rest.length + 1) [] Gap.none c
    if body.isEmpty then none else some (String.ofList body.reverse, after)

end MissionTracking.Yaml
