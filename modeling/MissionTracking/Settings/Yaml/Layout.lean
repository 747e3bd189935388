import MissionTracking.Settings.Yaml.Block
import MissionTracking.Settings.Yaml.Plain
import MissionTracking.Settings.Yaml.Quoted
import MissionTracking.Settings.Yaml.Tag

/-!
The tokens of a YAML document with its layout. Columns are turned into tokens that begin and end
lists and maps. That something is a key is known only at the colon after it, so every place where a
key may begin is kept until then, and the tokens of a key and of a map that begins there are put in
at that place.
-/
namespace MissionTracking.Yaml

structure KeyPlace where
  isOpen : Bool
  isRequired : Bool
  count : Nat
  line : Nat
  column : Nat
  index : Nat

def KeyPlace.closed : KeyPlace := ⟨false, false, 0, 0, 0, 0⟩

/-- The indent around a list or a map. A margin without a block only asks what follows to be
indented. -/
structure Margin where
  outer : Int
  isBlock : Bool

/-- What has been read. There is a place for a key on each level of lists and maps between brackets,
and one outside. -/
structure Layout where
  cursor : Cursor
  tokens : List (Token × Nat)
  keyAllowed : Bool
  keys : List KeyPlace
  indent : Int
  margins : List Margin
  /-- Where a value may follow its colon directly. -/
  adjacent : Nat
  hasOpenMap : Bool
  inSingleMap : Bool

namespace Layout

def start (cs : List Char) : Layout := ⟨.start cs, [], true, [.closed], -1, [], 0, false, false⟩

def inFlow (l : Layout) : Bool := decide (1 < l.keys.length)

def column (l : Layout) : Int := l.cursor.column

def add (l : Layout) (token : Token) : Layout :=
  { l with tokens := l.tokens ++ [(token, l.cursor.column)] }

def insert (l : Layout) (count : Nat) (token : Token) : Layout :=
  { l with tokens := l.tokens.take count ++ (token, l.cursor.column) :: l.tokens.drop count }

def moved (l : Layout) (c : Cursor) : Layout := { l with cursor := c }

def unrolled (column : Int) : List Margin → Int → List Margin × Int × Nat
  | [], indent => ([], indent, 0)
  | m :: margins, indent =>
    if column < indent then
      let (margins, indent, ends) := unrolled column margins m.outer
      (margins, indent, ends + m.isBlock.toNat)
    else (m :: margins, indent, 0)

def unroll (l : Layout) (column : Int) : Layout :=
  if l.inFlow then l
  else
    let (margins, indent, ends) := unrolled column l.margins l.indent
    { l with margins, indent,
             tokens := l.tokens ++ List.replicate ends (.blockEnd, l.cursor.column) }

/-- Begins a list or a map at a column, if that is indented, by a token at a place among the
others. -/
def roll (l : Layout) (column : Int) (count : Nat) (token : Token) : Layout :=
  if l.inFlow then l
  else
    let l := match l.margins with
      | m :: margins =>
        if l.indent ≤ column ∧ !m.isBlock then { l with margins, indent := m.outer } else l
      | [] => l
    if l.indent < column then
      { l.insert count token with margins := ⟨l.indent, true⟩ :: l.margins, indent := column }
    else l

def rollOne (l : Layout) : Layout :=
  if !l.inFlow && (l.margins.head?.any (·.isBlock)) then
    { l with margins := ⟨l.indent, false⟩ :: l.margins, indent := l.indent + 1 }
  else l

def withoutMargins (l : Layout) : Layout :=
  match l.margins.dropWhile (!·.isBlock), (l.margins.takeWhile (!·.isBlock)).getLast? with
  | margins, some m => { l with margins, indent := m.outer }
  | _, none => l

def withKey (l : Layout) : Layout :=
  if l.keyAllowed then
    let isRequired := !l.inFlow && l.indent == l.column && (l.margins.head?.any (·.isBlock))
    let c := l.cursor
    { l with keys := ⟨true, isRequired, l.tokens.length, c.line, c.column, c.index⟩ :: l.keys.tail }
  else l

def withoutKey? (l : Layout) : Option Layout :=
  match l.keys with
  | k :: keys =>
    if k.isOpen && k.isRequired then none
    else some { l with keys := { k with isOpen := false } :: keys }
  | [] => none

/-- Gives up a key that has gone on to the next line, or for too long. -/
def withoutStaleKeys? (l : Layout) : Option Layout := do
  if l.inFlow then some l
  else
    let keys ← l.keys.mapM fun k =>
      if k.isOpen &&
          (decide (k.line < l.cursor.line) || decide (k.index + 1024 < l.cursor.index)) then
        if k.isRequired then none else some { k with isOpen := false }
      else some k
    some { l with keys }

def allow (l : Layout) : Layout := { l with keyAllowed := true }

def disallow (l : Layout) : Layout := { l with keyAllowed := false }

def overTrivia? : (fuel : Nat) → Layout → Option Layout
  | 0, _ => none
  | fuel + 1, l =>
    let c := l.cursor
    match c.head? with
    | some x =>
      if x = '\t' ∧ !l.margins.isEmpty ∧ c.isLeading ∧ l.column < l.indent then do
        overTrivia? fuel (l.moved (← c.toLineEnd?))
      else if isSpace x then overTrivia? fuel (l.moved (c.overSpaces 1))
      else if isBreak x then
        overTrivia? fuel { l with cursor := c.overBreak, keyAllowed := l.keyAllowed || !l.inFlow }
      else if x = '#' then overTrivia? fuel (l.moved c.overComment)
      else some l
    | none => some l

def skip? (l : Layout) : Option Layout := l.overTrivia? (l.cursor.rest.length + 1)

def towardsLineEnd? (l : Layout) : Option Layout :=
  (l.cursor.towardsLineEnd? true).map fun p => l.moved p.1

def closeSingle (l : Layout) : Layout :=
  if l.inSingleMap then { l.add .closeMap with inSingleMap := false, hasOpenMap := false } else l

def mark? (l : Layout) (token : Token) : Option Layout := do
  let l ← (l.unroll (-1)).withoutKey?
  some ((l.disallow.add token).moved (l.cursor.past 3))

def open? (l : Layout) (token : Token) : Option Layout :=
  let l := l.withKey.rollOne
  if 256 ≤ l.keys.length then none
  else
    let l :=
      { l with keys := .closed :: l.keys, hasOpenMap := l.hasOpenMap || token == Token.openMap }
    ((l.allow.add token).moved (l.cursor.past 1)).towardsLineEnd?

def close? (l : Layout) (token : Token) : Option Layout := do
  let l ← l.withoutKey?
  let l := if l.inFlow then { l with keys := l.keys.tail } else l
  let l := l.disallow.closeSingle
  let l ← ((l.add token).moved (l.cursor.past 1)).towardsLineEnd?
  some (if l.inFlow then { l with adjacent := l.cursor.index } else l)

def comma? (l : Layout) : Option Layout := do
  let l ← l.withoutKey?
  let l := l.allow.closeSingle
  ((l.add .comma).moved (l.cursor.past 1)).towardsLineEnd?

def item? (l : Layout) : Option Layout := do
  let isMisplaced :=
    l.tokens.getLast?.any fun t => t.1.isProperty && t.2 == 0 && l.cursor.column == 0
  if l.inFlow || !l.keyAllowed || (isMisplaced && decide (-1 < l.indent)) then none
  else
    let l := l.roll l.column l.tokens.length .listStart
    let (c, spaces) ← (l.cursor.past 1).towardsLineEnd? true
    if spaces.contains '\t' && c.head? == some '-' && endsWord (c.rest.drop 1) then none
    else
      let l := l.moved c
      let l := if c.head?.any fun x => isBreak x || isFlowSign x then l.rollOne else l
      let l ← l.withoutKey?
      some (l.allow.add .item)

def overSpaces? (l : Layout) : Option Layout :=
  if endsWord l.cursor.rest && l.cursor.head? != some '\t' then
    (run (l.cursor.rest.length + 1) l).filter fun l => l.cursor.head? != some '\t'
  else none
where
  run : Nat → Layout → Option Layout
    | 0, _ => none
    | fuel + 1, l =>
      match l.cursor.head? with
      | some x =>
        if x = ' ' then run fuel (l.moved (l.cursor.overSpaces 1))
        else if isBreak x then
          run fuel { l with cursor := l.cursor.overBreak, keyAllowed := l.keyAllowed || !l.inFlow }
        else if x = '#' then run fuel (l.moved l.cursor.overComment)
        else some l
      | none => some l

def key? (l : Layout) : Option Layout := do
  if !l.inFlow && !l.keyAllowed then none
  else
    let l :=
      if l.inFlow then { l with hasOpenMap := true } else l.roll l.column l.tokens.length .mapStart
    let l ← l.withoutKey?
    let l := { l with keyAllowed := !l.inFlow }
    let column := l.cursor.column
    let l ← (l.moved (l.cursor.past 1)).overSpaces?
    some { l with tokens := l.tokens ++ [(.key, column)] }

/-- A colon. After a tab neither a word nor a minus may follow. -/
def afterColon? (c : Cursor) : Option Cursor :=
  if c.head? = some '\t' then do
    let (c, spaces) ← c.towardsLineEnd? true
    if !spaces.contains ' ' && c.head?.any isWordChar then none else some c
  else some c

/-- A value after a colon, and the key before it, which is put in where it began. -/
def value? (l : Layout) : Option Layout := do
  let key ← l.keys.head?
  let line := l.cursor.line
  let column := l.cursor.column
  let l := { l with inSingleMap := l.inFlow && !l.hasOpenMap }
  let l := l.moved (← afterColon? (l.cursor.past 1))
  let l ← if key.isOpen then
      if l.inSingleMap && decide (key.line < line) then none
      else
        let l := l.insert key.count .key
        let l := if l.inSingleMap then l.insert key.count .openMap else l
        let l := (l.roll key.column key.count .mapStart).rollOne
        some { l with keys := { key with isOpen := false } :: l.keys.tail, keyAllowed := false }
    else
      let l := if l.inSingleMap then l.add .openMap else l
      if !l.inFlow && !l.keyAllowed then none
      else
        let l := (l.roll column l.tokens.length .mapStart).rollOne
        some { l with keyAllowed := !l.inFlow }
  some { l with tokens := l.tokens ++ [(.value, column)] }

def property? (l : Layout) (read : Cursor → Option (Token × Cursor)) : Option Layout := do
  let l := l.withKey.disallow
  let (token, c) ← read l.cursor
  some ((l.add token).moved c)

def quoted? (l : Layout) (quote : Char) : Option Layout := do
  let l := l.withKey.disallow
  let (text, c) ← Yaml.quoted? quote l.indent l.inFlow l.cursor
  let l ← ((l.add (.scalar false text)).moved c).skip?
  some { l with adjacent := l.cursor.index }

def block? (l : Layout) (isFolded : Bool) : Option Layout := do
  let l := l.withKey.allow.withoutMargins
  let (text, c) ← Yaml.block? isFolded l.indent (l.cursor.past 1)
  some ((l.add (.scalar false text)).moved c)

def plain? (l : Layout) : Option Layout := do
  let l := l.withKey.disallow.withoutMargins
  let (text, c) ← Yaml.plain? l.inFlow (l.indent + 1) l.cursor
  some { (l.add (.scalar true text)).moved c with keyAllowed := c.isLeading }

def token? (l : Layout) (x : Char) : Option Layout :=
  let c := l.cursor
  let rest := c.rest.drop 1
  if c.column = 0 ∧ x = '%' then do
    let l ← (l.unroll (-1)).withoutKey?
    let (token, c) ← directive? l.cursor
    some ((l.disallow.add token).moved c)
  else if c.isAtMark '-' then l.mark? .documentStart
  else if c.isAtMark '.' then do
    let l ← l.mark? .documentEnd
    some (l.moved (← l.cursor.toLineEnd?))
  else if l.column < l.indent then none
  else if x = '[' then l.open? .openList
  else if x = '\x7b' then l.open? .openMap
  else if x = ']' then l.close? .closeList
  else if x = '\x7d' then l.close? .closeMap
  else if x = ',' then l.comma?
  else if x = '-' ∧ endsWord rest then l.item?
  else if x = '?' ∧ endsWord rest then l.key?
  else if x = ':' ∧
      (endsWord rest ∨ (l.inFlow ∧ (rest.head?.any isFlowSign ∨ c.index = l.adjacent))) then
        l.value?
  else if x = '*' then l.property? fun c => (anchorName? c).map fun p => (.alias p.1, p.2)
  else if x = '&' then l.property? fun c => (anchorName? c).map fun p => (.anchor p.1, p.2)
  else if x = '!' then l.property? (tag? l.inFlow)
  else if x = '|' ∧ !l.inFlow then l.block? false
  else if x = '>' ∧ !l.inFlow then l.block? true
  else if x = '\x27' ∨ x = '"' then l.quoted? x
  else if x = '%' ∨ x = '@' ∨ x = '\x60' then none
  else l.plain?

def finish? (l : Layout) : Option (List Token) := do
  if l.keys.any fun k => k.isOpen && k.isRequired then none
  else
    let l := l.unroll (-1)
    some (l.tokens.map (·.1))

def run? : (fuel : Nat) → Layout → Option (List Token)
  | 0, _ => none
  | fuel + 1, l => do
    let l ← l.skip?
    let l ← l.withoutStaleKeys?
    let l := l.unroll l.column
    match l.cursor.head? with
    | none => l.finish?
    | some x => run? fuel (← l.token? x)

end Layout

def tokens? (cs : List Char) : Option (List Token) :=
  let cs := cs.takeWhile (· != '\x00')
  Layout.run? (cs.length + 1) (.start cs)

end MissionTracking.Yaml
