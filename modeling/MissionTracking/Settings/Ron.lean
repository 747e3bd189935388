import MissionTracking.Settings.Tree
import MissionTracking.Text.Hexadecimal

/-!
RON documents: records with their fields between parentheses, tuples, maps from texts, lists and
optional values. Names of records and of variants do not matter. A tuple is a list, a single
character is a text, and what is absent has no value. Readers take their part from the front of the
text and leave the rest; `fuel` bounds their steps by the length of the text.
-/
namespace MissionTracking.Ron
open Text

/-- Drops white space and comments; a comment over several lines may hold others, `depth` of which
are open. A comment without an end is an error. -/
def trivia? : (fuel depth : Nat) → List Char → Option (List Char)
  | 0, _, _ => none
  | _ + 1, depth, [] => if depth = 0 then some [] else none
  | fuel + 1, depth, '/' :: '*' :: cs => trivia? fuel (depth + 1) cs
  | fuel + 1, 0, '/' :: '/' :: cs => trivia? fuel 0 (cs.dropWhile (· != '\n'))
  | fuel + 1, 0, c :: cs =>
    if [' ', '\t', '\n', '\r'].contains c then trivia? fuel 0 cs else some (c :: cs)
  | fuel + 1, depth + 1, '*' :: '/' :: cs => trivia? fuel depth cs
  | fuel + 1, depth + 1, _ :: cs => trivia? fuel (depth + 1) cs

def skip? (cs : List Char) : Option (List Char) := trivia? (cs.length + 1) 0 cs

def isNameChar (c : Char) : Bool := c.isAlphanum || c = '_'

def name? : List Char → Option (List Char × List Char)
  | 'r' :: '#' :: cs =>
    let isRaw (c : Char) : Bool := isNameChar c || ['.', '+', '-'].contains c
    if (cs.takeWhile isRaw).isEmpty then none else some (cs.takeWhile isRaw, cs.dropWhile isRaw)
  | 'r' :: '"' :: _ => none
  | c :: cs =>
    if isNameChar c && !c.isDigit then
      some (c :: cs.takeWhile isNameChar, cs.dropWhile isNameChar) else none
  | [] => none

def escaped? : List Char → Option (Char × Nat)
  | '"' :: _ => some ('"', 1)
  | '\\' :: _ => some ('\\', 1)
  | '\x27' :: _ => some ('\x27', 1)
  | 'n' :: _ => some ('\n', 1)
  | 'r' :: _ => some ('\r', 1)
  | 't' :: _ => some ('\t', 1)
  | '0' :: _ => some ('\x00', 1)
  | 'x' :: cs => (hexNumber? 2 cs).map fun n => (Char.ofNat n, 3)
  | 'u' :: '\x7b' :: cs => do
    let ds := cs.takeWhile (· != '\x7d')
    let n ← hexNumber? ds.length ds
    if h : 0 < ds.length ∧ ds.length ≤ 6 ∧ ds.length < cs.length ∧ n.isValidChar then
      some (Char.ofNatAux n h.2.2.2, ds.length + 3)
    else none
  | _ => none

def quoted? : (skip : Nat) → List Char → Option (List Char × List Char)
  | 0, '"' :: cs => some ([], cs)
  | 0, '\\' :: cs =>
    match escaped? cs with
    | some (c, width) => (quoted? width cs).map fun p => (c :: p.1, p.2)
    | none => none
  | 0, c :: cs => (quoted? 0 cs).map fun p => (c :: p.1, p.2)
  | skip + 1, _ :: cs => quoted? skip cs
  | _, [] => none

/-- A text without escapes, up to a quote with as many number signs as stand before the opening
one. -/
def raw? (signs : List Char) : List Char → Option (List Char × List Char)
  | '"' :: cs =>
    if signs.isPrefixOf cs then some ([], cs.drop signs.length)
    else (raw? signs cs).map fun p => ('"' :: p.1, p.2)
  | c :: cs => (raw? signs cs).map fun p => (c :: p.1, p.2)
  | [] => none

def text? : List Char → Option (List Char × List Char)
  | '"' :: cs => quoted? 0 cs
  | 'r' :: cs =>
    match cs.dropWhile (· = '#') with
    | '"' :: rest => raw? (cs.takeWhile (· = '#')) rest
    | _ => none
  | '\x27' :: '\\' :: cs => do
    let (c, width) ← escaped? cs
    match cs.drop width with
    | '\x27' :: rest => some ([c], rest)
    | _ => none
  | '\x27' :: c :: '\x27' :: rest => some ([c], rest)
  | _ => none

def base : List Char → Nat × List Char
  | '0' :: 'x' :: cs => (16, cs)
  | '0' :: 'o' :: cs => (8, cs)
  | '0' :: 'b' :: cs => (2, cs)
  | cs => (10, cs)

def isWholeChar (c : Char) : Bool := c = '_' || (hexValue? c).isSome

def isRealChar (c : Char) : Bool := c.isDigit || ['e', 'E', '.', '+', '-'].contains c

def natural? (cs : List Char) : Option (Nat × List Char) :=
  let (base, cs) := base cs
  let run := cs.takeWhile isWholeChar
  let ds := run.filter (· != '_')
  if run.isEmpty || run.head? == some '_' || !ds.all fun c => (hexValue? c).any (· < base) then none
  else some (ds.foldl (fun n c => n * base + (hexValue? c).getD 0) 0, cs.drop run.length)

def real? (cs : List Char) : Option (Scalar × List Char) :=
  (Double.ofChars? (cs.takeWhile isRealChar)).map fun x => (.real x, cs.dropWhile isRealChar)

def number? (cs : List Char) : Option (Scalar × List Char) :=
  let sign := (cs.take 1).filter fun c => c = '+' || c = '-'
  let body := cs.drop sign.length
  if (body.takeWhile isWholeChar).length < (body.takeWhile isRealChar).length then real? cs
  else
    match natural? body with
    | some (n, rest) =>
      if sign == ['-'] then
        if n ≤ 9223372036854775808 then some (.int (-n), rest) else real? cs
      else if n < 9223372036854775808 then some (.int n, rest)
      else if sign.isEmpty ∧ n ≤ Scalar.maxNatural then
        some (.real (Double.ofScientific ⟨false, n, 0⟩), rest)
      else real? cs
    | none => real? cs

/-- A list ends at `]`, a map at a closing brace, a record or a tuple at `)`. -/
def comma? (cs : List Char) : Option (Bool × List Char) := do
  match ← skip? cs with
  | ',' :: rest => some (true, ← skip? rest)
  | rest => some (false, rest)

def beginsField (cs : List Char) : Bool :=
  ((name? cs).bind fun p => skip? p.2).any fun rest => rest.head? == some ':'

def key? : SettingTree → Option String
  | .leaf (.text s) => some s
  | _ => none

mutual

def value? : (fuel : Nat) → List Char → Option (SettingTree × List Char)
  | 0, _ => none
  | fuel + 1, cs =>
    match cs with
    | '(' :: ')' :: rest => some (.unset, rest)
    | '(' :: rest => do group? fuel (← skip? rest)
    | '[' :: rest => do
      let (items, rest) ← items? fuel ']' (← skip? rest)
      some (.list items, rest)
    | '\x7b' :: rest => do
      let (members, rest) ← entries? fuel [] (← skip? rest)
      some (.branch members, rest)
    | '-' :: 'i' :: 'n' :: 'f' :: rest => some (.leaf (.real (.infinite true)), rest)
    | c :: _ =>
      match name? cs with
      | some (name, rest) => named? fuel (String.ofList name) rest
      | none =>
        if c = '"' ∨ c = 'r' ∨ c = '\x27' then (text? cs).map fun p =>
          (.leaf (.text (String.ofList p.1)), p.2)
        else (number? cs).map fun p => (.leaf p.1, p.2)
    | [] => none

def named? : (fuel : Nat) → String → List Char → Option (SettingTree × List Char)
  | 0, _, _ => none
  | fuel + 1, name, cs =>
    if name = "true" then some (.leaf (.bool true), cs)
    else if name = "false" then some (.leaf (.bool false), cs)
    else if name = "inf" then some (.leaf (.real (.infinite false)), cs)
    else if name = "NaN" then some (.leaf (.real .nan), cs)
    else if name = "None" then some (.unset, cs)
    else do
      match ← skip? cs with
      | '(' :: rest =>
        let rest ← skip? rest
        if name = "Some" then
          let (value, rest) ← value? fuel rest
          match ← comma? rest with
          | (_, ')' :: rest) => some (value, rest)
          | _ => none
        else group? fuel rest
      | rest => if name = "Some" then none else some (.unset, rest)

def group? : (fuel : Nat) → List Char → Option (SettingTree × List Char)
  | 0, _ => none
  | fuel + 1, cs =>
    if beginsField cs then (fields? fuel [] cs).map fun p => (.branch p.1, p.2)
    else (items? fuel ')' cs).map fun p => (.list p.1, p.2)

def items? : (fuel : Nat) → (close : Char) → List Char → Option (List SettingTree × List Char)
  | 0, _, _ => none
  | fuel + 1, close, cs =>
    if cs.head? = some close then some ([], cs.tail)
    else do
      let (item, rest) ← value? fuel cs
      let (more, rest) ← comma? rest
      if more then
        let (items, rest) ← items? fuel close rest
        some (item :: items, rest)
      else if rest.head? = some close then some ([item], rest.tail)
      else none

def fields? :
    (fuel : Nat) → SettingTree.Members → List Char → Option (SettingTree.Members × List Char)
  | 0, _, _ => none
  | fuel + 1, ms, cs =>
    if cs.head? = some ')' then some (ms, cs.tail)
    else do
      let (name, rest) ← name? cs
      let (ms, more, rest) ← member? fuel ms (String.ofList name) rest
      if more then fields? fuel ms rest
      else if rest.head? = some ')' then some (ms, rest.tail)
      else none

def entries? :
    (fuel : Nat) → SettingTree.Members → List Char → Option (SettingTree.Members × List Char)
  | 0, _, _ => none
  | fuel + 1, ms, cs =>
    if cs.head? = some '\x7d' then some (ms, cs.tail)
    else do
      let (key, rest) ← value? fuel cs
      let (ms, more, rest) ← member? fuel ms (← key? key) rest
      if more then entries? fuel ms rest
      else if rest.head? = some '\x7d' then some (ms, rest.tail)
      else none

def member? : (fuel : Nat) → SettingTree.Members → String → List Char →
    Option (SettingTree.Members × Bool × List Char)
  | 0, _, _, _ => none
  | fuel + 1, ms, name, cs => do
    match ← skip? cs with
    | ':' :: rest =>
      let (value, rest) ← value? fuel (← skip? rest)
      let (more, rest) ← comma? rest
      some (SettingTree.Members.set ms name value, more, rest)
    | _ => none

end

def extensions : List (List Char) :=
  ["unwrap_newtypes", "implicit_some", "unwrap_variant_newtypes"].map String.toList

def enabled? : (fuel : Nat) → List Char → Option (List Char)
  | 0, _ => none
  | _ + 1, ')' :: rest => some rest
  | fuel + 1, cs => do
    let (name, rest) ← name? cs
    let (more, rest) ← comma? rest
    if !extensions.contains name then none
    else if more then enabled? fuel rest
    else match rest with
      | ')' :: rest => some rest
      | _ => none

def withoutExtensions? : (fuel : Nat) → List Char → Option (List Char)
  | 0, _ => none
  | fuel + 1, cs => do
    match ← skip? cs with
    | '#' :: rest =>
      let rest ← mark? '!' rest
      let rest ← mark? '[' rest
      let (name, rest) ← name? rest
      let rest ← mark? '(' rest
      let rest ← enabled? rest.length (← skip? rest)
      let rest ← mark? ']' rest
      if name = "enable".toList then withoutExtensions? fuel rest else none
    | rest => some rest
where
  mark? (sign : Char) (cs : List Char) : Option (List Char) := do
    match ← skip? cs with
    | c :: rest => if c = sign then skip? rest else none
    | [] => none

def document? (cs : List Char) : Option SettingTree.Members := do
  let cs ← withoutExtensions? (cs.length + 1) cs
  let (value, rest) ← value? (4 * cs.length + 4) cs
  match value, ← skip? rest with
  | .branch members, [] => some members
  | _, _ => none

end MissionTracking.Ron
