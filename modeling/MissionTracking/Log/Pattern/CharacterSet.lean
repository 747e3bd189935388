import MissionTracking.Log.Pattern.Atom

/-!
Sets of characters between brackets: members, ranges, named sets, sets within sets, and operators
between them. A reader of a set answers with its height, the number of levels it has, since patterns
may not be too deep.
-/
namespace MissionTracking.Log.Pattern
open Text

/-- The height of what stands side by side: one more than the highest where there are several. -/
def joined : List Nat → Nat
  | [] => 0
  | [height] => height
  | heights => heights.foldl max 0 + 1

def Flags.hasMembers (f : Flags) : Bool := !(f.unicode && f.caseless)

def isMember (f : Flags) : Atom → Bool
  | .literal c _ => f.hasMembers && (f.unicode || decide (c.toNat < 0x80))
  | .letterClass negated => (Atom.letterClass negated).isSupported f
  | .any | .position _ => false

def Flags.allowsNegation (f : Flags) (negated : Bool) : Bool := f.unicode || !negated

def member? (f : Flags) : List Char → Option (Atom × List Char)
  | '\\' :: cs => (escape? f cs).filter fun p => isMember f p.1
  | c :: cs => if isMember f (.literal c false) then some (.literal c false, cs) else none
  | [] => none

/-- The character that decides whether a minus before `cs` makes a range. Of a comment the first
character that is no blank is looked at. -/
def afterMinus (f : Flags) (cs : List Char) : Option Char :=
  if f.spaced then
    match cs.dropWhile isBlank with
    | '#' :: comment => (comment.dropWhile isBlank).head? <|> cs.head?
    | rest => rest.head? <|> cs.head?
  else cs.head?

/-- A member or a range of them. A minus before another one or before the end of the set is no
range. -/
def range? (f : Flags) (cs : List Char) : Option (List Char) := do
  let (first, rest) ← member? f cs
  match f.skip rest with
  | '-' :: cs =>
    if afterMinus f cs = some ']' ∨ afterMinus f cs = some '-' then some ('-' :: cs)
    else
      match first, member? f (f.skip cs) with
      | .literal a _, some (.literal b _, rest) => if a.toNat ≤ b.toNat then some rest else none
      | _, _ => none
  | rest => some rest

def namedSets : List (List Char) :=
  ["alnum", "alpha", "ascii", "blank", "cntrl", "digit", "graph", "lower", "print", "punct",
    "space", "upper", "word", "xdigit"].map String.toList

def namedSet? : List Char → Option (Bool × List Char)
  | ':' :: cs =>
    let negated := cs.head? == some '^'
    let cs := if negated then cs.tail else cs
    match cs.dropWhile (· != ':') with
    | ':' :: ']' :: rest =>
      if namedSets.contains (cs.takeWhile (· != ':')) then some (negated, rest) else none
    | _ => none
  | _ => none

def startingMinuses (f : Flags) :
    (fuel : Nat) → (members : List Nat) → List Char → List Nat × List Char
  | 0, members, cs => (members, cs)
  | fuel + 1, members, cs =>
    match cs with
    | '-' :: cs => startingMinuses f fuel (0 :: members) (f.skip cs)
    | cs => (members, cs)

def setStart? (f : Flags) (cs : List Char) : Option (List Nat × List Char) :=
  let cs := f.skip cs
  let negated := cs.head? == some '^'
  let cs := if negated then f.skip cs.tail else cs
  let (members, cs) := match cs with
    | ']' :: cs => ([0], f.skip cs)
    | cs => startingMinuses f cs.length [] cs
  if f.allowsNegation negated && (members.isEmpty || f.hasMembers) then some (members, cs) else none

/-- The height of a side of an operator, with what stands before the operator in front of it. -/
def sideHeight (left : Option Nat) (members : List Nat) : Nat :=
  match left with
  | none => joined members
  | some height => max height (joined members) + 1

/-- The rest of a set: its height, and what follows its closing bracket. `left` is the height of
what stands before the last operator, `members` are the heights of what comes after it. -/
def setRest? (f : Flags) : (fuel : Nat) → (left : Option Nat) → (members : List Nat) → List Char →
    Option (Nat × List Char)
  | 0, _, _, _ => none
  | fuel + 1, left, members, cs =>
    match f.skip cs with
    | [] => none
    | ']' :: cs => some (sideHeight left members + 1, cs)
    | '[' :: cs =>
      match namedSet? cs with
      | some (negated, rest) =>
        if f.hasMembers && f.allowsNegation negated then
          setRest? f fuel left (0 :: members) rest else none
      | none => do
        let (inner, rest) ← setStart? f cs
        let (height, rest) ← setRest? f fuel none inner rest
        setRest? f fuel left (height :: members) rest
    | '&' :: '&' :: cs | '-' :: '-' :: cs | '~' :: '~' :: cs =>
      setRest? f fuel (some (sideHeight left members)) [] cs
    | cs => (range? f cs).bind (setRest? f fuel left (0 :: members))

def set? (f : Flags) (cs : List Char) : Option (Nat × List Char) := do
  let (members, rest) ← setStart? f cs
  setRest? f (rest.length + 1) none members rest

end MissionTracking.Log.Pattern
