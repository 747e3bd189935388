import MissionTracking.Settings.Yaml.Token
import MissionTracking.Settings.Yaml.Cursor
import MissionTracking.Text.Hexadecimal

/-!
Tags, anchors and lines with directives in a YAML document. A tag is a suffix after a handle, an
anchor a name for a node, and a directive names the version of the format or what a handle of tags
stands for.
-/
namespace MissionTracking.Yaml
open Text

def isTagChar (c : Char) : Bool :=
  c.isAlphanum ||
  ['-', '#', ';', '/', '?', ':', '@', '&', '=', '+', '$', '_', '.', '~', '*', '\x27', '(', ')',
    '%'].contains c

def isAddressChar (c : Char) : Bool := isTagChar c || ['!', ',', '[', ']'].contains c

/-- The characters of a tag. A percent sign and two digits spell a byte; only those of ASCII are
read. -/
def tagText? : List Char → Option (List Char)
  | '%' :: cs => do
    let n ← (hexNumber? 2 cs).filter (· < 0x80)
    match cs with
    | _ :: _ :: cs => (tagText? cs).map (Char.ofNat n :: ·)
    | _ => none
  | c :: cs => (tagText? cs).map (c :: ·)
  | [] => some []

def tagString? (cs : List Char) : Option String := (tagText? cs).map String.ofList

def handle (cs : List Char) : List Char :=
  let word := (cs.drop 1).takeWhile isWordChar
  let isClosed := (cs.drop (word.length + 1)).head? == some '!'
  '!' :: (if isClosed then word ++ ['!'] else word)

def tag? (inFlow : Bool) (c : Cursor) : Option (Token × Cursor) := do
  let (token, c) ← match c.rest with
    | '!' :: '<' :: cs => do
      let body := cs.takeWhile isAddressChar
      if (cs.drop body.length).head? = some '>' then
        some (Token.tag "" (← tagString? body), c.past (body.length + 3))
      else none
    | cs => do
      let h := handle cs
      let isHandle := h.length ≥ 2 && h.getLast? == some '!'
      let body := (cs.drop h.length).takeWhile isTagChar
      let after := c.past (h.length + body.length)
      if isHandle then
        if body.isEmpty then none else some (Token.tag (String.ofList h) (← tagString? body), after)
      else
        let suffix := h.drop 1 ++ (← tagText? body)
        some (if suffix.isEmpty then Token.tag "" "!" else Token.tag "!" (String.ofList suffix),
          after)
  if endsWord c.rest || (inFlow && c.head?.any isFlowSign) then some (token, c) else none

def anchorName? (c : Cursor) : Option (String × Cursor) :=
  let name :=
  (c.rest.drop 1).takeWhile fun c => !(isBreak c || isSpace c || isFlowSign c || c = '\uFEFF')
  if name.isEmpty then none else some (String.ofList name, c.past (name.length + 1))

def gap? (cs : List Char) : Option (List Char) :=
  if cs.head?.any isSpace then some (cs.dropWhile isSpace) else none

def isVersion (cs : List Char) : Bool :=
  let isNumber (ds : List Char) : Bool :=
  !ds.isEmpty && ds.all Char.isDigit && decide (ds.length ≤ 9)
  isNumber (cs.takeWhile (· != '.')) && isNumber ((cs.dropWhile (· != '.')).drop 1)

/-- A directive at the start of a line, and the place after that line. Those that are unknown mean
nothing. -/
def directive? (c : Cursor) : Option (Token × Cursor) := do
  let name := (c.rest.drop 1).takeWhile isWordChar
  let c := c.past (name.length + 1)
  if name.isEmpty || !endsWord c.rest then none
  else
    let (token, c) ←
      if name = ['Y', 'A', 'M', 'L'] then
        let body := (c.rest.dropWhile isSpace).takeWhile fun c => c.isDigit || c = '.'
        if isVersion body then
          some (Token.version, c.past ((c.rest.takeWhile isSpace).length + body.length))
        else none
      else if name = ['T', 'A', 'G'] then do
        let cs := c.rest.dropWhile isSpace
        let h := handle cs
        let rest ← gap? (cs.drop h.length)
        let meaning := rest.takeWhile isAddressChar
        let after := rest.drop meaning.length
        if cs.head? = some '!' ∧ (h.length = 1 ∨ h.getLast? = some '!') ∧ !meaning.isEmpty ∧
            endsWord after then
          some (Token.handle (String.ofList h) (← tagString? meaning),
            c.past (c.rest.length - after.length))
        else none
      else some (Token.handle "" "", c.overComment)
    (c.toLineEnd?).map fun c => (token, c.overBreak)

end MissionTracking.Yaml
