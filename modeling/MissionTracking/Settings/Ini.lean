import MissionTracking.Settings.Tree
import MissionTracking.Text.Blank
import MissionTracking.Text.Hexadecimal

/-!
INI documents: keys with their values in sections, which begin with a name between brackets. Every
value is a text. A key goes on to its sign and a value to the end of its line; in both a backslash
begins an escape or joins two lines, and a value may have parts between quotes. A comment has a line
of its own. Keys before the first section stand beside the sections, and of sections or keys with
one name the last one counts.
-/
namespace MissionTracking.Ini
open Text

/-- A code point in four characters: hexadecimal digits, before which a sign may stand. -/
def codePoint? (cs : List Char) : Option (Char × List Char) := do
  let n ← match cs with
    | '+' :: cs => hexNumber? 3 cs
    | cs => hexNumber? 4 cs
  if h : n.isValidChar then some (Char.ofNatAux n h, cs.drop 4) else none

/-- What stands after a backslash: a character, or nothing where two lines are joined. -/
def escaped? : List Char → Option (List Char × List Char)
  | 'x' :: cs => (codePoint? cs).map fun p => ([p.1], p.2)
  | '\n' :: cs => some ([], cs)
  | '0' :: cs => some (['\x00'], cs)
  | 'a' :: cs => some (['\x07'], cs)
  | 'b' :: cs => some (['\x08'], cs)
  | 't' :: cs => some (['\t'], cs)
  | 'r' :: cs => some (['\r'], cs)
  | 'n' :: cs => some (['\n'], cs)
  | c :: cs => some ([c], cs)
  | [] => none

def run? (ends : Char → Bool) : (fuel : Nat) → List Char → Option (List Char × List Char)
  | 0, _ => none
  | _ + 1, [] => some ([], [])
  | fuel + 1, c :: cs =>
    if ends c then some ([], c :: cs)
    else if c = '\\' then do
      let (content, rest) ← escaped? cs
      let (body, rest) ← run? ends fuel rest
      some (content ++ body, rest)
    else (run? ends fuel cs).map fun p => (c :: p.1, p.2)

def until? (ends : Char → Bool) (cs : List Char) : Option (List Char × List Char) :=
  (run? ends (cs.length + 1) cs).filter fun p => !p.2.isEmpty

def isLineEnd (c : Char) : Bool := c = '\n' || c = '\r'

def trimEnd (cs : List Char) : List Char := (dropBlanks cs.reverse).reverse

def value? : (fuel : Nat) → (isFirst : Bool) → List Char → Option (List Char × List Char)
  | 0, _, _ => none
  | _ + 1, _, [] => some ([], [])
  | fuel + 1, isFirst, c :: cs =>
    if c = '"' ∨ c = '\x27' then do
      let (part, rest) ← until? (· = c) cs
      let (body, rest) ← value? fuel false rest.tail
      some (part ++ body, rest)
    else do
      let (part, rest) ← run? isLineEnd (cs.length + 2) (c :: cs)
      some (if isFirst then trim part else trimEnd part, rest)

/-- What has been read: the keys outside of sections, and the sections, the last one first. -/
structure Draft where
  general : SettingTree.Members
  sections : List (String × SettingTree.Members)
deriving Inhabited

namespace Draft

def begin (d : Draft) (name : String) : Draft := { d with sections := (name, []) :: d.sections }

def set (d : Draft) (key value : String) : Draft :=
  let value : SettingTree := .leaf (.text value)
  match d.sections with
  | (name, members) :: sections =>
    { d with sections := (name, SettingTree.Members.set members key value) :: sections }
  | [] => { d with general := SettingTree.Members.set d.general key value }

def members (d : Draft) : SettingTree.Members :=
  d.sections.foldr (fun s ms => SettingTree.Members.set ms s.1 (.branch s.2)) d.general

end Draft

def textOf (cs : List Char) : String := String.ofList (trim cs)

/-- Reads on from the start of a line or from what follows on it, where `key` waits for its
value. -/
def statements? :
    (fuel : Nat) → (atLineStart : Bool) → (key : String) → Draft → List Char → Option Draft
  | 0, _, _, _, _ => none
  | _ + 1, _, _, d, [] => some d
  | fuel + 1, atLineStart, key, d, c :: cs =>
    if isBlank c then statements? fuel (c = '\n') key d cs
    else if c = ';' ∨ c = '#' then
      if atLineStart then statements? fuel true key d ((cs.dropWhile (· != '\n')).drop 1) else none
    else if c = '[' then do
      let (name, rest) ← until? (· = ']') cs
      statements? fuel false key (d.begin (textOf name)) rest.tail
    else if c = '=' ∨ c = ':' then
      if key.isEmpty then none
      else do
        let rest := cs.dropWhile fun c => isBlank c && !isLineEnd c
        let (value, rest) ← value? (rest.length + 1) true rest
        statements? fuel false "" (d.set key (textOf value)) rest
    else do
      let (name, rest) ← until? (fun c => c = '=' || c = ':') (c :: cs)
      statements? fuel false (textOf name) d rest

def document? (cs : List Char) : Option SettingTree.Members :=
  (statements? (cs.length + 1) true "" ⟨[], []⟩ cs).map Draft.members

end MissionTracking.Ini
