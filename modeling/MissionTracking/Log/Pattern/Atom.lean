import MissionTracking.Log.Pattern.Flags
import MissionTracking.Text.Hexadecimal

/-!
The units of a pattern that stand for one character or for a position, and which of them are
supported under which flags. There are no tables of letters: a pattern about characters has neither
letters in any case nor classes by a letter nor the borders of words, and a pattern about bytes has
nothing that stands for half of a character.
-/
namespace MissionTracking.Log.Pattern
open Text

inductive Atom where
  | literal (c : Char) (byte : Bool)
  | letterClass (negated : Bool)
  | any
  | position (border : Bool)
deriving DecidableEq, Repr

def Atom.isSupported (f : Flags) : Atom → Bool
  | .literal c byte => if f.unicode then !f.caseless else decide (c.toNat < 0x80) || !byte
  | .letterClass negated => !f.unicode && !negated
  | .any => f.unicode
  | .position border => !border || !f.unicode

def hexDigits? (f : Flags) : (width n : Nat) → List Char → Option (Nat × List Char)
  | 0, n, cs => some (n, cs)
  | width + 1, n, cs =>
    match f.skip cs with
    | c :: cs => (hexValue? c).bind fun d => hexDigits? f width (n * 16 + d) cs
    | [] => none

def codePoint? (f : Flags) (width : Nat) (cs : List Char) : Option (Atom × List Char) := do
  let (n, rest) ← hexDigits? f width 0 cs
  if h : n.isValidChar then some (.literal (Char.ofNatAux n h) (width == 2), rest) else none

def controlLetters : List (Char × Char) :=
  [('a', '\x07'), ('f', '\x0c'), ('t', '\t'), ('n', '\n'), ('r', '\r'), ('v', '\x0b')]

/-- A sign that stands for itself after a backslash. -/
def isSign (c : Char) : Bool := decide (c.toNat < 0x80) && !c.isAlphanum && c != '<' && c != '>'

def escape? (f : Flags) : List Char → Option (Atom × List Char)
  | [] => none
  | 'x' :: cs => codePoint? f 2 cs
  | 'u' :: cs => codePoint? f 4 cs
  | 'U' :: cs => codePoint? f 8 cs
  | c :: cs =>
    if ['d', 's', 'w'].contains c then some (.letterClass false, cs)
    else if ['D', 'S', 'W'].contains c then some (.letterClass true, cs)
    else if ['A', 'z'].contains c then some (.position false, cs)
    else if ['b', 'B', '<', '>'].contains c then some (.position true, cs)
    else if isSign c then some (.literal c false, cs)
    else (controlLetters.lookup c).map fun c => (.literal c false, cs)

def atom? (f : Flags) : List Char → Option (Atom × List Char)
  | '\\' :: cs => escape? f cs
  | '.' :: cs => some (.any, cs)
  | '^' :: cs | '$' :: cs => some (.position false, cs)
  | c :: cs => some (.literal c false, cs)
  | [] => none

end MissionTracking.Log.Pattern
