import MissionTracking.Text.Decimal
import MissionTracking.Time.Calendar

/-!
Dates and times of a TOML document. No setting is a time, so they become texts, all in one form:
date and clock on both sides of a `T`, at most nine digits of a fraction and no zeros at its end,
and the offset as `Z` or with its sign. Every scanner takes its part from the front of the text and
leaves the rest.
-/
namespace MissionTracking.Toml
open Text

def fixed? (width limit : Nat) (cs : List Char) : Option (Nat × List Char) :=
  let ds := cs.take width
  if ds.length = width ∧ ds.all Char.isDigit ∧ digitsValue ds ≤ limit then
    some (digitsValue ds, cs.drop width)
  else none

def mark? (mark : Char) : List Char → Option (List Char)
  | c :: cs => if c = mark then some cs else none
  | [] => none

def date? (cs : List Char) : Option (List Char × List Char) := do
  let (year, cs) ← fixed? 4 9999 cs
  let cs ← mark? '-' cs
  let (month, cs) ← fixed? 2 12 cs
  let cs ← mark? '-' cs
  let (day, cs) ← fixed? 2 31 cs
  if Date.Valid ⟨year, month, day⟩ then
    some (padded 4 year ++ '-' :: (padded 2 month ++ '-' :: padded 2 day), cs)
  else none

def fractionText (ds : List Char) : List Char :=
  let kept := ((ds.take 9).reverse.dropWhile (· = '0')).reverse
  if kept.isEmpty then [] else '.' :: kept

/-- Hours, minutes, seconds and an optional fraction. The second 60 is a leap second. -/
def clock? (cs : List Char) : Option (List Char × List Char) := do
  let (hour, cs) ← fixed? 2 23 cs
  let cs ← mark? ':' cs
  let (minute, cs) ← fixed? 2 59 cs
  let cs ← mark? ':' cs
  let (second, cs) ← fixed? 2 60 cs
  let text := padded 2 hour ++ ':' :: (padded 2 minute ++ ':' :: padded 2 second)
  match cs with
  | '.' :: cs =>
    let ds := cs.takeWhile Char.isDigit
    if ds.isEmpty then none else some (text ++ fractionText ds, cs.dropWhile Char.isDigit)
  | cs => some (text, cs)

def offset? : List Char → Option (List Char × List Char)
  | [] => some ([], [])
  | c :: cs =>
    if c = 'Z' ∨ c = 'z' then some (['Z'], cs)
    else if c = '+' ∨ c = '-' then do
      let (hours, cs) ← fixed? 2 23 cs
      let cs ← mark? ':' cs
      let (minutes, cs) ← fixed? 2 59 cs
      let sign := if hours = 0 ∧ minutes = 0 then '+' else c
      some (sign :: (padded 2 hours ++ ':' :: padded 2 minutes), cs)
    else some ([], c :: cs)

def moment? (cs : List Char) : Option (String × List Char) :=
  match date? cs with
  | some (date, rest) =>
    let clock := match rest with
      | c :: cs => if c = 'T' ∨ c = 't' ∨ c = ' ' then clock? cs else none
      | [] => none
    match clock with
    | some (clock, rest) =>
      (offset? rest).map fun p => (String.ofList (date ++ 'T' :: (clock ++ p.1)), p.2)
    | none => some (String.ofList date, rest)
  | none => (clock? cs).map fun p => (String.ofList p.1, p.2)

end MissionTracking.Toml
