import MissionTracking.Settings.Toml.Moment
import MissionTracking.Settings.Toml.Number
import MissionTracking.Settings.Toml.Quoted
import MissionTracking.Settings.Toml.Table

/-!
Keys and values of a TOML document. A key is a path of names between dots. A value is a text, a
number, a truth value, a time, a list over any number of lines or a table on one line. Readers take
their part from the front of the text and leave the rest; `fuel` bounds their steps by the length of
the text.
-/
namespace MissionTracking.Toml

/-- Paths have fewer names and lists fewer levels than this. -/
def maxDepth : Nat := 80

def isKeyChar (c : Char) : Bool := c.isAlphanum || c = '_' || c = '-'

def name? : List Char → Option (String × List Char)
  | [] => none
  | c :: cs =>
    if c = doubleQuote ∨ c = singleQuote then (line? c 0 cs).map fun p => (String.ofList p.1, p.2)
    else if isKeyChar c then
      some (String.ofList (c :: cs.takeWhile isKeyChar), cs.dropWhile isKeyChar)
    else none

def names? : Nat → List Char → Option (List String × List Char)
  | 0, _ => none
  | fuel + 1, cs => do
    let (name, rest) ← name? cs
    match dropSpaces rest with
    | '.' :: rest => (names? fuel (dropSpaces rest)).map fun p => (name :: p.1, p.2)
    | rest => some ([name], rest)

def key? (cs : List Char) : Option (List String × List Char) :=
  (names? cs.length cs).filter fun p => decide (p.1.length < maxDepth)

def dropComment : List Char → List Char
  | '#' :: cs => cs.dropWhile isPlain
  | cs => cs

def dropTrivia : Nat → List Char → List Char
  | 0, cs => cs
  | fuel + 1, cs =>
    match dropComment (dropSpaces cs) with
    | '\n' :: rest => dropTrivia fuel rest
    | rest => rest

def isWordChar (c : Char) : Bool := c.isAlphanum || ['_', '+', '-', '.', ':'].contains c

def scalar? (cs : List Char) : Option (Scalar × List Char) :=
  match moment? cs with
  | some (moment, rest) => some (.text moment, rest)
  | none => (word? (cs.takeWhile isWordChar)).map fun v => (v, cs.dropWhile isWordChar)

mutual

def value? : (fuel depth : Nat) → List Char → Option (Node × List Char)
  | 0, _, _ => none
  | fuel + 1, depth, '[' :: cs =>
    if depth + 1 < maxDepth then
      (items? fuel (depth + 1) cs).map fun p => (.list p.1, p.2) else none
  | fuel + 1, depth, '\x7b' :: cs =>
    if depth + 1 < maxDepth then
      match dropSpaces cs with
      | '\x7d' :: rest => some (.table .closed [], rest)
      | rest => (members? fuel (depth + 1) [] rest).map fun p => (.table .closed p.1, p.2)
    else none
  | _ + 1, _, c :: cs =>
    if c = doubleQuote ∨ c = singleQuote then (quoted? c cs).map fun p => (.leaf (.text p.1), p.2)
    else (scalar? (c :: cs)).map fun p => (.leaf p.1, p.2)
  | _ + 1, _, [] => none

def items? : (fuel depth : Nat) → List Char → Option (List Node × List Char)
  | 0, _, _ => none
  | fuel + 1, depth, cs =>
    match dropTrivia cs.length cs with
    | ']' :: rest => some ([], rest)
    | cs => do
      let (node, rest) ← value? fuel depth cs
      match dropTrivia rest.length rest with
      | ']' :: rest => some ([node], rest)
      | ',' :: rest => (items? fuel depth rest).map fun p => (node :: p.1, p.2)
      | _ => none

def members? : (fuel depth : Nat) → Members → List Char → Option (Members × List Char)
  | 0, _, _, _ => none
  | fuel + 1, depth, ms, cs => do
    let (key, rest) ← key? (dropSpaces cs)
    let rest ← mark? '=' rest
    let (node, rest) ← value? fuel depth (dropSpaces rest)
    let ms ← Members.set? key.dropLast (key.getLastD "") node .explicit ms
    match dropSpaces rest with
    | '\x7d' :: rest => some (ms, rest)
    | ',' :: rest => members? fuel depth ms rest
    | _ => none

end

end MissionTracking.Toml
