import MissionTracking.Text.Blank

/-!
The flags of a pattern. They hold from where they are set to the end of the group around them. Only
three of them bear on the form of a pattern: whether letters count in any case, whether it is about
characters or about bytes, and whether blanks and comments between its units count.
-/
namespace MissionTracking.Log.Pattern
open Text

structure Flags where
  caseless : Bool
  /-- The pattern is about characters; otherwise about bytes. -/
  unicode : Bool
  spaced : Bool
deriving DecidableEq, Repr

namespace Flags

def standard : Flags := ⟨false, true, false⟩

def letters : List Char := ['i', 'm', 's', 'U', 'u', 'R', 'x', '-']

def areLetters (cs : List Char) : Bool :=
  cs.all (letters.contains ·) && cs.getLast? != some '-' && decide cs.Nodup

def value (cs : List Char) (letter : Char) (old : Bool) : Bool :=
  if cs.contains letter then (cs.takeWhile (· != '-')).contains letter else old

def updated (f : Flags) (cs : List Char) : Flags :=
  ⟨value cs 'i' f.caseless, value cs 'u' f.unicode, value cs 'x' f.spaced⟩

end Flags

/-- Drops blanks and comments. A comment goes on to the end of its line. -/
def dropComments : (inComment : Bool) → List Char → List Char
  | _, [] => []
  | true, c :: cs => dropComments (c != '\n') cs
  | false, c :: cs =>
    if isBlank c then dropComments false cs
    else if c = '#' then dropComments true cs
    else c :: cs

def Flags.skip (f : Flags) (cs : List Char) : List Char :=
  if f.spaced then dropComments false cs else cs

end MissionTracking.Log.Pattern
