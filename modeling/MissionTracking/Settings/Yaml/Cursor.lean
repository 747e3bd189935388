/-!
Places in a YAML document. Layout carries meaning there, so a place knows its line and its column,
and whether anything but white space stands before it on its line.
-/
namespace MissionTracking.Yaml

def isBreak (c : Char) : Bool := c = '\n' || c = '\r'

def isSpace (c : Char) : Bool := c = ' ' || c = '\t'

def isFlowSign (c : Char) : Bool := [',', '[', ']', '\x7b', '\x7d'].contains c

def isWordChar (c : Char) : Bool := c.isAlphanum || c = '_' || c = '-'

def endsLine : List Char → Bool
  | [] => true
  | c :: _ => isBreak c

def endsWord : List Char → Bool
  | [] => true
  | c :: _ => isBreak c || isSpace c

structure Cursor where
  rest : List Char
  line : Nat
  column : Nat
  index : Nat
  /-- Only white space stands before the place on its line. -/
  isLeading : Bool

namespace Cursor

def start (cs : List Char) : Cursor := ⟨cs, 0, 0, 0, true⟩

def head? (c : Cursor) : Option Char := c.rest.head?

def overSpaces (c : Cursor) (count : Nat) : Cursor :=
  { c with rest := c.rest.drop count, column := c.column + count, index := c.index + count }

def past (c : Cursor) (count : Nat) : Cursor := { c.overSpaces count with isLeading := false }

def overBreak (c : Cursor) : Cursor :=
  match c.rest with
  | '\r' :: '\n' :: cs => ⟨cs, c.line + 1, 0, c.index + 2, true⟩
  | _ :: cs => ⟨cs, c.line + 1, 0, c.index + 1, true⟩
  | [] => c

def overComment (c : Cursor) : Cursor := c.past (c.rest.takeWhile fun c => !isBreak c).length

def isAtMark (c : Cursor) (sign : Char) : Bool :=
  c.column == 0 && c.rest.take 3 == [sign, sign, sign] && endsWord (c.rest.drop 3)

def isBetweenDocuments (c : Cursor) : Bool := c.isAtMark '-' || c.isAtMark '.'

/-- Goes over white space and a comment, which needs white space before it, towards the end of the
line. The spaces that were there are given too. -/
def towardsLineEnd? (c : Cursor) (withTabs : Bool) : Option (Cursor × List Char) :=
  let spaces := c.rest.takeWhile fun c => c = ' ' || (withTabs && c = '\t')
  let c := c.overSpaces spaces.length
  if c.head? = some '#' then if spaces.isEmpty then none else some (c.overComment, spaces)
  else some (c, spaces)

def toLineEnd? (c : Cursor) : Option Cursor :=
  ((c.towardsLineEnd? true).map (·.1)).filter fun c => endsLine c.rest

end Cursor
end MissionTracking.Yaml
