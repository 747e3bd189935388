import MissionTracking.Settings.Tree
import MissionTracking.Text.Decimal

/-!
Paths into a tree of settings: a name, then names after dots and positions in brackets. Whatever
stands in the way of a path is given up for the branch or the list that the path needs.
-/
namespace MissionTracking

inductive Step where
  | key (name : String)
  /-- A position in a list, from the end when it is negative. -/
  | index (position : Int)
deriving DecidableEq, Repr

abbrev Path := List Step

namespace Path

def isNameChar (c : Char) : Bool := c.isAlphanum || [' ', '_', '-'].contains c

def name? (cs : List Char) : Option (Step × List Char) :=
  let name := cs.takeWhile isNameChar
  if name.isEmpty then none else some (.key (String.ofList name), cs.dropWhile isNameChar)

def dropSpaces (cs : List Char) : List Char := cs.dropWhile fun c => c = ' ' || c = '\t'

def position? (cs : List Char) : Option (Step × List Char) := do
  let cs := dropSpaces cs
  let isPart (c : Char) : Bool := c.isDigit || c = '-'
  let n ← Scalar.int64? (cs.takeWhile isPart)
  match dropSpaces (cs.dropWhile isPart) with
  | ']' :: rest => some (.index n, rest)
  | _ => none

def steps? : Nat → List Char → Option Path
  | _, [] => some []
  | 0, _ => none
  | fuel + 1, '.' :: cs => do
    let (step, rest) ← name? cs
    (steps? fuel rest).map (step :: ·)
  | fuel + 1, '[' :: cs => do
    let (step, rest) ← position? cs
    (steps? fuel rest).map (step :: ·)
  | _, _ => none

/-- The path that a text spells; a text of another form is one name as a whole. -/
def ofText (text : String) : Path :=
  ((do
    let (step, rest) ← name? text.toList
    let steps ← steps? rest.length rest
    some (step :: steps)) : Option Path).getD [.key text]

end Path

namespace SettingTree

def modifyAt (position : Int) (change : SettingTree → SettingTree) (t : SettingTree) :
    SettingTree :=
  let (items, i) := reaching t.items position
  .list (items.modify i change)

/-- Lays a tree over what is at a path. An item of a list is replaced. -/
def setAt (value : SettingTree) : Path → SettingTree → SettingTree
  | [], _ => value
  | [.key name], t => t.put name value
  | .key name :: path, t => t.withChild name (setAt value path ((t.child? name).getD .unset))
  | .index position :: path, t => t.modifyAt position (setAt value path)

end SettingTree
end MissionTracking
