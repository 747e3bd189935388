import MissionTracking.Settings.Yaml.Cursor
import MissionTracking.Settings.Yaml.Folding
import MissionTracking.Text.Hexadecimal

/-!
Texts of a YAML document between quotes. Between single quotes a quote is written twice, between
double quotes a backslash begins an escape; at the end of a line it joins that with the next one. A
text may go on over several lines, which are indented at least as much as what is around it.
-/
namespace MissionTracking.Yaml
open Text

def codePoint? (width : Nat) (cs : List Char) : Option (Char × Nat) := do
  let n ← hexNumber? width cs
  if h : n.isValidChar then some (Char.ofNatAux n h, width + 1) else none

def escapes : List (Char × Char) :=
  [('0', '\x00'), ('a', '\x07'), ('b', '\x08'), ('t', '\t'), ('\t', '\t'), ('n', '\n'),
    ('v', '\x0b'), ('f', '\x0c'), ('r', '\r'), ('e', '\x1b'), (' ', ' '), ('"', '"'), ('/', '/'),
    ('\\', '\\'), ('N', '\u0085'), ('_', '\u00A0'), ('L', '\u2028'), ('P', '\u2029')]

def escaped? : List Char → Option (Char × Nat)
  | 'x' :: cs => codePoint? 2 cs
  | 'u' :: cs => codePoint? 4 cs
  | 'U' :: cs => codePoint? 8 cs
  | c :: _ => (escapes.lookup c).map (·, 1)
  | [] => none

/-- The characters up to white space or the closing quote, in reverse before `done`. The flag tells
of an escaped end of a line. -/
def quotedRun? (quote : Char) :
    (fuel : Nat) → (done : List Char) → Cursor → Option (List Char × Bool × Cursor)
  | 0, _, _ => none
  | fuel + 1, done, c =>
    match c.rest with
    | '\\' :: cs =>
      if quote = '"' then
        if cs.head?.any isBreak then some (done, true, (c.past 1).overBreak)
        else
          match escaped? cs with
          | some (e, width) => quotedRun? quote fuel (e :: done) (c.past (width + 1))
          | none => none
      else quotedRun? quote fuel ('\\' :: done) (c.past 1)
    | x :: cs =>
      if isBreak x || isSpace x then some (done, false, c)
      else if x = quote then
        if quote = '\x27' ∧ cs.head? = some '\x27' then quotedRun? quote fuel (x :: done) (c.past 2)
        else some (done, false, c)
      else quotedRun? quote fuel (x :: done) (c.past 1)
    | [] => some (done, false, c)

def quotedGap? (indent : Int) : (fuel : Nat) → Gap → Cursor → Option (Gap × Cursor)
  | 0, _, _ => none
  | fuel + 1, g, c =>
    match c.rest with
    | x :: _ =>
      if isBreak x then quotedGap? indent fuel g.withBreak c.overBreak
      else if isSpace x then
        if g.hasBreak && x == '\t' && decide ((c.column : Int) < indent) then none
        else quotedGap? indent fuel (g.withSpace x) (c.overSpaces 1)
      else some (g, c)
    | [] => some (g, c)

def quotedBody? (quote : Char) (indent : Int) : (fuel : Nat) → (done : List Char) → Cursor →
    Option (List Char × Cursor)
  | 0, _, _ => none
  | fuel + 1, done, c => do
    if c.isBetweenDocuments || c.rest.isEmpty || decide ((c.column : Int) < indent) then none
    else
      let (done, isEscaped, c) ← quotedRun? quote (c.rest.length + 1) done c
      if c.head? = some quote then some (done, c)
      else
        let (gap, c) ← quotedGap? indent (c.rest.length + 1) ⟨[], 0, isEscaped⟩ c
        quotedBody? quote indent fuel (gap.folded.reverse ++ done) c

/-- The text after its opening quote, and the place after the closing one and the white space behind
it. Only what may follow a text stands there; a key is on one line. -/
def quoted? (quote : Char) (indent : Int) (inFlow : Bool) (c : Cursor) :
    Option (String × Cursor) := do
  let (body, after) ← quotedBody? quote indent (c.rest.length + 1) [] (c.past 1)
  let (after, _) ← (after.past 1).towardsLineEnd? true
  let isFollowed := match after.head? with
    | some ':' => inFlow || after.line == c.line
    | some x => isBreak x || (inFlow && [',', ']', '\x7d'].contains x)
    | none => true
  if isFollowed then some (String.ofList body.reverse, after) else none

end MissionTracking.Yaml
