import MissionTracking.Log.Pattern.CharacterSet
import MissionTracking.Text.Alphabetic

/-!
Which texts are patterns. A clause of a log filter may name a pattern for the value of a field; a
text that is no pattern makes the whole filter invalid. Only the form of a pattern is looked at:
groups and sets are closed, repetitions have something to repeat, ranges run upwards, every escape
is known, nothing needs a table of letters, and the whole is not too deep. Counted repetitions and
references to groups are not supported.
-/
namespace MissionTracking.Log.Pattern
open Text

/-- The number of levels that a pattern may have: groups, sets, repetitions, sequences and
alternatives count. -/
def maxHeight : Nat := 250

def groupName? (cs : List Char) : Option (List Char × List Char) :=
  match cs.takeWhile (· != '>'), cs.dropWhile (· != '>') with
  | c :: name, _ :: rest =>
    if (c = '_' || isAlphabetic c) && name.all fun c =>
      ['_', '.', '[', ']'].contains c || isAlphanumeric c then
      some (c :: name, rest)
    else none
  | _, _ => none

inductive Opening where
  | group (flags : Flags) (name : Option (List Char))
  | flags (flags : Flags)

def opening? (f : Flags) (cs : List Char) : Option (Opening × List Char) :=
  match f.skip cs with
  | '?' :: 'P' :: '<' :: cs | '?' :: '<' :: cs =>
    (groupName? cs).map fun p => (.group f (some p.1), p.2)
  | '?' :: cs =>
    let letters := cs.takeWhile fun c => c != ':' && c != ')'
    if Flags.areLetters letters then
      match cs.dropWhile fun c => c != ':' && c != ')' with
      | ':' :: rest => some (.group (f.updated letters) none, rest)
      | _ :: rest => if letters.isEmpty then none else some (.flags (f.updated letters), rest)
      | [] => none
    else none
  | cs => some (.group f none, cs)

/-- A group as far as it has been read: the heights of its alternatives, and of the units of the
current one. Flags among the units have no height, and nothing repeats them. -/
structure Draft where
  alternatives : List Nat
  units : List (Option Nat)

namespace Draft

def empty : Draft := ⟨[], []⟩

def push (d : Draft) (height : Nat) : Draft := { d with units := some height :: d.units }

def pushFlags (d : Draft) : Draft := { d with units := none :: d.units }

def repeat? (d : Draft) : Option Draft :=
  match d.units with
  | some height :: units => some { d with units := some (height + 1) :: units }
  | _ => none

def alternate (d : Draft) : Draft := ⟨joined (d.units.map (·.getD 0)) :: d.alternatives, []⟩

def height (d : Draft) : Nat := joined d.alternate.alternatives

end Draft

/-- A place in a pattern: the flags there, the group that is being read, those around it with their
flags, and the names of all groups. -/
structure Place where
  flags : Flags
  group : Draft
  outer : List (Flags × Draft)
  names : List (List Char)

namespace Place

def start : Place := ⟨.standard, .empty, [], []⟩

def push (p : Place) (height : Nat) : Place := { p with group := p.group.push height }

def enter? (p : Place) (inner : Flags) (name : Option (List Char)) : Option Place :=
  if name.any p.names.contains then none
  else some ⟨inner, .empty, (p.flags, p.group) :: p.outer, name.toList ++ p.names⟩

def leave? (p : Place) : Option Place :=
  match p.outer with
  | (flags, group) :: outer => some ⟨flags, group.push (p.group.height + 1), outer, p.names⟩
  | [] => none

def step? (p : Place) : List Char → Option (Place × List Char)
  | '(' :: cs => do
    match ← opening? p.flags cs with
    | (.group flags name, rest) => (p.enter? flags name).map fun p => (p, rest)
    | (.flags flags, rest) => some ({ p with flags, group := p.group.pushFlags }, rest)
  | ')' :: cs => p.leave?.map fun p => (p, cs)
  | '|' :: cs => some ({ p with group := p.group.alternate }, cs)
  | '\x7b' :: _ => none
  | '[' :: cs => (set? p.flags cs).map fun s => (p.push s.1, s.2)
  | c :: cs =>
    if ['*', '+', '?'].contains c then
      p.group.repeat?.map fun group =>
        ({ p with group }, if cs.head? = some '?' then cs.tail else cs)
    else do
      let (atom, rest) ← atom? p.flags (c :: cs)
      if atom.isSupported p.flags then some (p.push 0, rest) else none
  | [] => none

def run? : (fuel : Nat) → Place → List Char → Option Place
  | 0, _, _ => none
  | fuel + 1, p, cs =>
    match p.flags.skip cs with
    | [] => some p
    | cs => do
      let (p, rest) ← p.step? cs
      run? fuel p rest

end Place

def isWellFormed (cs : List Char) : Bool :=
  match Place.start.run? (cs.length + 1) cs with
  | some p => p.outer.isEmpty && decide (p.group.height ≤ maxHeight)
  | none => false

end MissionTracking.Log.Pattern
