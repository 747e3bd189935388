import MissionTracking.Json.Token
import MissionTracking.Settings.Tree
import MissionTracking.Text.Alphabetic
import MissionTracking.Text.Blank

/-!
JSON5 documents: objects and lists that may end with a comma, names without quotes, texts between
either quotes, comments, and numbers in hexadecimal or without a digit before or after the point.
Readers take their part from the front of the text and leave the rest; `fuel` bounds their steps by
the length of the text.
-/
namespace MissionTracking.Json5
open Text

def isLineTerminator (c : Char) : Bool := ['\n', '\r', '\u2028', '\u2029'].contains c

def isSpace (c : Char) : Bool := (isBlank c && c != '\u0085') || c = '\uFEFF'

def commentEnd? : List Char → Option (List Char)
  | '*' :: '/' :: cs => some cs
  | _ :: cs => commentEnd? cs
  | [] => none

/-- Drops white space and comments. A comment without an end stays. -/
def dropTrivia : (fuel : Nat) → List Char → List Char
  | 0, cs => cs
  | fuel + 1, cs =>
    match cs.dropWhile isSpace with
    | '/' :: '/' :: rest => dropTrivia fuel (rest.dropWhile fun c => !isLineTerminator c)
    | '/' :: '*' :: rest =>
      match commentEnd? rest with
      | some rest => dropTrivia fuel rest
      | none => '/' :: '*' :: rest
    | rest => rest

def skip (cs : List Char) : List Char := dropTrivia (cs.length + 1) cs

/-- What stands after a backslash, and the number of characters of its spelling. The end of a line
stands for nothing, and a digit is no escape unless it is zero. -/
def escaped? : List Char → Option (List Char × Nat)
  | 'x' :: cs => do
    let n ← hexNumber? 2 cs
    some ([Char.ofNat n], 3)
  | 'u' :: cs => do
    let (c, width) ← Json.escapedUnit? cs
    some ([← c], width)
  | 'b' :: _ => some (['\x08'], 1)
  | 'f' :: _ => some (['\x0c'], 1)
  | 'n' :: _ => some (['\n'], 1)
  | 'r' :: _ => some (['\r'], 1)
  | 't' :: _ => some (['\t'], 1)
  | 'v' :: _ => some (['\x0b'], 1)
  | '0' :: _ => some (['\x00'], 1)
  | '\r' :: '\n' :: _ => some ([], 2)
  | c :: _ => if isLineTerminator c then some ([], 1) else if c.isDigit then none else some ([c], 1)
  | [] => none

/-- The characters of a text up to its closing quote, and what follows the quote. The first `skip`
characters spell an escape that has been read. -/
def quoted? (quote : Char) : (skip : Nat) → List Char → Option (List Char × List Char)
  | 0, '\\' :: cs =>
    match escaped? cs with
    | some (content, width) => (quoted? quote width cs).map fun p => (content ++ p.1, p.2)
    | none => none
  | 0, c :: cs =>
    if c = quote then some ([], cs)
    else if isLineTerminator c then none
    else (quoted? quote 0 cs).map fun p => (c :: p.1, p.2)
  | skip + 1, _ :: cs => quoted? quote skip cs
  | _, [] => none

def isQuote (c : Char) : Bool := c = '"' || c = '\x27'

def isNameStart (c : Char) : Bool := c = '$' || c = '_' || isAlphabetic c

def isNamePart (c : Char) : Bool :=
  c = '$' || c = '_' || c = '\u200C' || c = '\u200D' || isAlphanumeric c

def name? : List Char → Option (List Char × List Char)
  | [] => none
  | c :: cs =>
    if isQuote c then quoted? c 0 cs
    else if isNameStart c then some (c :: cs.takeWhile isNamePart, cs.dropWhile isNamePart)
    else none

def decimal (cs : List Char) : List Char :=
  let whole := match cs with
    | '0' :: _ => ['0']
    | cs => cs.takeWhile Char.isDigit
  let fraction := match cs.drop whole.length with
    | '.' :: cs => '.' :: cs.takeWhile Char.isDigit
    | _ => []
  let exponent := match cs.drop (whole.length + fraction.length) with
    | e :: cs =>
      if e = 'e' ∨ e = 'E' then
        let sign := (cs.take 1).filter fun c => c = '+' || c = '-'
        let ds := (cs.drop sign.length).takeWhile Char.isDigit
        if ds.isEmpty then [] else e :: (sign ++ ds)
      else []
    | [] => []
  whole ++ fraction ++ exponent

def decimalValue? (cs : List Char) : Option Scalar :=
  if cs.any fun c => c = '.' || c = 'e' || c = 'E' then
    ((Double.ofChars? cs).filter Double.isFinite).map .real
  else (Scalar.int64? cs).map .int

def number? (cs : List Char) : Option (Scalar × List Char) :=
  let sign := (cs.take 1).filter fun c => c = '+' || c = '-'
  match sign, cs.drop sign.length with
  | ['+'], 'I' :: _ | ['+'], 'N' :: _ => none
  | sign, 'I' :: 'n' :: 'f' :: 'i' :: 'n' :: 'i' :: 't' :: 'y' :: rest =>
    some (.real (.infinite (sign == ['-'])), rest)
  | _, 'N' :: 'a' :: 'N' :: rest => some (.real .nan, rest)
  | sign, '0' :: x :: cs' =>
    if (x = 'x' ∨ x = 'X') ∧ cs'.head?.any fun c => (hexValue? c).isSome then
      let ds := cs'.takeWhile fun c => (hexValue? c).isSome
      let n := ds.foldl (fun n c => n * 16 + (hexValue? c).getD 0) 0
      if sign.isEmpty ∧ n < 4294967296 then some (.int n, cs'.drop ds.length) else none
    else decimalNumber? sign ('0' :: x :: cs')
  | sign, cs => decimalNumber? sign cs
where
  decimalNumber? (sign cs : List Char) : Option (Scalar × List Char) :=
    (decimalValue? (sign ++ decimal cs)).map fun v => (v, cs.drop (decimal cs).length)

def scalar? : List Char → Option (SettingTree × List Char)
  | 'n' :: 'u' :: 'l' :: 'l' :: cs => some (.unset, cs)
  | 't' :: 'r' :: 'u' :: 'e' :: cs => some (.leaf (.bool true), cs)
  | 'f' :: 'a' :: 'l' :: 's' :: 'e' :: cs => some (.leaf (.bool false), cs)
  | c :: cs =>
    if isQuote c then (quoted? c 0 cs).map fun p => (.leaf (.text (String.ofList p.1)), p.2)
    else (number? (c :: cs)).map fun p => (.leaf p.1, p.2)
  | [] => none

mutual

def value? : (fuel : Nat) → List Char → Option (SettingTree × List Char)
  | 0, _ => none
  | fuel + 1, '[' :: cs =>
    match skip cs with
    | ']' :: rest => some (.list [], rest)
    | rest => (items? fuel rest).map fun p => (.list p.1, p.2)
  | fuel + 1, '\x7b' :: cs =>
    match skip cs with
    | '\x7d' :: rest => some (.branch [], rest)
    | rest => (members? fuel [] rest).map fun p => (.branch p.1, p.2)
  | _ + 1, cs => scalar? cs

def items? : (fuel : Nat) → List Char → Option (List SettingTree × List Char)
  | 0, _ => none
  | fuel + 1, cs => do
    let (item, rest) ← value? fuel cs
    match skip rest with
    | ']' :: rest => some ([item], rest)
    | ',' :: rest =>
      match skip rest with
      | ']' :: rest => some ([item], rest)
      | rest => (items? fuel rest).map fun p => (item :: p.1, p.2)
    | _ => none

def members? :
    (fuel : Nat) → SettingTree.Members → List Char → Option (SettingTree.Members × List Char)
  | 0, _, _ => none
  | fuel + 1, ms, cs => do
    let (name, rest) ← name? cs
    match skip rest with
    | ':' :: rest => do
      let (value, rest) ← value? fuel (skip rest)
      let ms := SettingTree.Members.set ms (String.ofList name) value
      match skip rest with
      | '\x7d' :: rest => some (ms, rest)
      | ',' :: rest =>
        match skip rest with
        | '\x7d' :: rest => some (ms, rest)
        | rest => members? fuel ms rest
      | _ => none
    | _ => none

end

def document? (cs : List Char) : Option SettingTree.Members := do
  let (value, rest) ← value? (cs.length + 1) (skip cs)
  match value, skip rest with
  | .branch members, [] => some members
  | _, _ => none

end MissionTracking.Json5
