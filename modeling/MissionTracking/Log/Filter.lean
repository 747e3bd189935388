import MissionTracking.Log.Record
import MissionTracking.Log.Pattern
import MissionTracking.Number.Double
import MissionTracking.Text.Alphanumeric
import MissionTracking.Text.Blank

/-!
Which log records pass. A filter is a list of clauses. Of the clauses whose target begins the target
of a record and whose field the record has, the most specific one decides, the last one of equals; a
record for which there is none is dropped.

As text the clauses stand between commas: a level for all targets, a target with a level, or a
target alone, from which everything passes. Brackets after the target, or in its place, name a span
or hold a field in braces. No record lies in a span, so what a span has to be like, or the value of
a field, decides nothing.
-/
namespace MissionTracking.Log
open Text

/-- Records up to this verbosity pass. -/
structure Clause where
  target : Option (List Char)
  field : Option String
  limit : Nat
deriving DecidableEq, Repr

structure Filter where
  clauses : List Clause
deriving DecidableEq, Repr

def limitNames : List (List Char × Nat) :=
  [("off".toList, 0), ("error".toList, 1), ("warn".toList, 2), ("info".toList, 3),
    ("debug".toList, 4), ("trace".toList, 5)]

def maxLimit : Nat := 5

def limit? (cs : List Char) : Option Nat :=
  let number := match cs with
    | '+' :: cs => natural? cs
    | cs => natural? cs
  (number.filter fun n => decide (n ≤ maxLimit)) <|> limitNames.lookup (cs.map Char.toLower)

def beginsTarget (c : Char) : Bool := c = '_' || c = ':' || c = '-' || isAlphanumeric c

structure Condition where
  target : Option (List Char)
  inSpan : Bool
  field : Option (String × Bool)

namespace Condition

/-- A condition that no span and no value take part in is one on records. -/
def clause? (c : Condition) (limit : Nat) : Option Clause :=
  if c.inSpan || c.field.any (·.2) then none else some ⟨c.target, c.field.map (·.1), limit⟩

end Condition

def field? (cs : List Char) : Option (String × Bool) :=
  let name := String.ofList (cs.takeWhile (· != '='))
  match cs.dropWhile (· != '=') with
  | [] => if cs.isEmpty then none else some (name, false)
  | _ :: rest =>
    let value := rest.takeWhile (· != '=')
    if (Double.ofChars? value).isSome || Pattern.isWellFormed value then some (name, true) else none

/-- An item as it is read. The signs that divide it are looked for in the text without blanks around
it, but its parts are cut from the text with them, at the same places. So every character comes with
the one that is cut in its stead; they differ only after a blank. -/
abbrev Item := List (Char × Char)

namespace Item

def ofText (cs : List Char) : Item := (trim cs).zip cs

def before (item : Item) (signs : List Char) : List Char :=
  (item.takeWhile fun p => !signs.contains p.1).map (·.2)

def rest (item : Item) (signs : List Char) : Item := item.dropWhile fun p => !signs.contains p.1

end Item

def brackets? (target : Option (List Char)) (item : Item) : Option (Condition × Item) :=
  let span := Item.before item [']', '\x7b']
  match Item.rest item [']', '\x7b'] with
  | (']', _) :: rest => some (⟨target, true, none⟩, rest)
  | _ :: item => do
    let field ← field? (Item.before item ['\x7d'])
    match Item.rest item ['\x7d'] with
    | _ :: (']', _) :: rest => some (⟨target, !span.isEmpty, some field⟩, rest)
    | _ => none
  | [] => none

/-- The level after a sign of equality, which is cut up to the end of the text. Without a word
everything passes. -/
def level? (item : Item) (tail : List Char) : Option Nat :=
  let word := item.map (·.2) ++ tail
  if word.isEmpty then some maxLimit else limit? word

def levelAfter? (tail : List Char) : Item → Option Nat
  | [] => some maxLimit
  | ('=', _) :: item => level? item tail
  | _ => none

/-- What an item says, where `tail` is the text after it. A word without a level may itself be
one. -/
def condition? (item : Item) (tail : List Char) : Option (Condition × Nat) :=
  match item with
  | ('[', _) :: item => do
    let (condition, rest) ← brackets? none item
    let limit ← levelAfter? tail rest
    some (condition, limit)
  | (c, _) :: _ =>
    if beginsTarget c then
      let target := Item.before item ['=', '[']
      match Item.rest item ['=', '['] with
      | [] =>
        match limit? (target ++ tail) with
        | some limit => some (⟨none, false, none⟩, limit)
        | none => some (⟨some (target ++ tail), false, none⟩, maxLimit)
      | ('=', _) :: rest => (level? rest tail).map fun limit => (⟨some target, false, none⟩, limit)
      | _ :: item => do
        let (condition, rest) ← brackets? (some target) item
        let limit ← levelAfter? tail rest
        some (condition, limit)
    else none
  | [] => none

def clauses? (cs : List Char) : Option (List Clause) := do
  let item := Item.ofText cs
  let (condition, limit) ← condition? item (cs.drop item.length)
  some (condition.clause? limit).toList

namespace Filter

def ofText? (text : String) : Option Filter :=
  (((text.toList.splitOn ',').filter fun item => !item.isEmpty).mapM clauses?).map fun cs =>
    ⟨cs.flatten⟩

def standard : Filter := ⟨[⟨none, none, 3⟩]⟩

end Filter

namespace Clause

def cares (c : Clause) (r : Record) : Bool :=
  (c.target.getD []).isPrefixOf r.component.target.toList && c.field.all r.hasField

/-- More specific clauses are greater: those with a longer target, then those with a field, and of
two fields the later one in the alphabet. -/
def specificity (a b : Clause) : Ordering :=
  (compare (a.target.map List.length) (b.target.map List.length)).then (compare a.field b.field)

end Clause

namespace Filter

def closer (best : Option Clause) (c : Clause) : Option Clause :=
  match best with
  | some b => if c.specificity b = .lt then some b else some c
  | none => some c

def deciding? (f : Filter) (r : Record) : Option Clause :=
  (f.clauses.filter fun c => c.cares r).foldl closer none

def admits (f : Filter) (r : Record) : Bool :=
  (f.deciding? r).any fun c => decide (r.severity.verbosity ≤ c.limit)

end Filter
end MissionTracking.Log
