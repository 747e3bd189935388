import MissionTracking.Time.Instant
import MissionTracking.Text.Blank
import MissionTracking.Text.Decimal
import MissionTracking.Json.Record
import MissionTracking.Time.Writer

/-!
Reading a time with its offset. White space may stand before every number and every separator but
the one between date and clock, which is a `T` or one space. The offset is `Z`, `UTC` or a sign with
hours and minutes. Every scanner takes its part from the front of the text and leaves the rest.
-/
namespace MissionTracking
namespace TimeReader
open Text

def digitsUpTo? (width : Nat) (cs : List Char) : Option (Nat × List Char) :=
  let ds := (cs.takeWhile Char.isDigit).take width
  if ds.isEmpty then none else some (digitsValue ds, cs.drop ds.length)

def allDigits? (cs : List Char) : Option (List Char × List Char) :=
  let ds := cs.takeWhile Char.isDigit
  if ds.isEmpty then none else some (ds, cs.dropWhile Char.isDigit)

def number? (cs : List Char) : Option (Nat × List Char) := digitsUpTo? 2 (dropBlanks cs)

/-- Up to four digits, or any number of them after a sign. -/
def year? (cs : List Char) : Option (Int × List Char) :=
  match dropBlanks cs with
  | '-' :: cs => (allDigits? cs).map fun p => (-(digitsValue p.1 : Int), p.2)
  | '+' :: cs => (allDigits? cs).map fun p => ((digitsValue p.1 : Int), p.2)
  | cs => (digitsUpTo? 4 cs).map fun p => ((p.1 : Int), p.2)

def separator? (separator : Char) (cs : List Char) : Option (List Char) :=
  match dropBlanks cs with
  | c :: cs => if c = separator then some cs else none
  | [] => none

def clockMark? : List Char → Option (List Char)
  | c :: cs => if c = 'T' ∨ c = 't' ∨ c = ' ' then some cs else none
  | [] => none

/-- Nanoseconds from the first nine digits of a fraction; the others are dropped. -/
def fraction? : List Char → Option (Nat × List Char)
  | '.' :: cs => (allDigits? cs).map fun p =>
    let ds := p.1.take 9
    (digitsValue ds * Nat.pow 10 (9 - ds.length), p.2)
  | cs => some (0, cs)

def twoDigits? : List Char → Option (Nat × List Char)
  | a :: b :: cs => if a.isDigit ∧ b.isDigit then some (digitsValue [a, b], cs) else none
  | _ => none

def hoursMinutes? (cs : List Char) : Option (Nat × List Char) := do
  let (hours, cs) ← twoDigits? cs
  let (minutes, cs) ← twoDigits? (cs.dropWhile fun c => c = ':' || isBlank c)
  if minutes < 60 then some (hours * 60 + minutes, cs) else none

def offset? (cs : List Char) : Option (Int × List Char) :=
  match dropBlanks cs with
  | 'Z' :: cs | 'z' :: cs => some (0, cs)
  | '+' :: cs => (hoursMinutes? cs).map fun p => ((p.1 : Int), p.2)
  | '-' :: cs | '−' :: cs => (hoursMinutes? cs).map fun p => (-(p.1 : Int), p.2)
  | a :: b :: c :: cs => if [a, b, c].map Char.toLower = ['u', 't', 'c'] then some (0, cs) else none
  | _ => none

def date? (cs : List Char) : Option (Date × List Char) := do
  let (year, cs) ← year? cs
  let cs ← separator? '-' cs
  let (month, cs) ← number? cs
  let cs ← separator? '-' cs
  let (day, cs) ← number? cs
  some (⟨year, month, day⟩, cs)

def local? (cs : List Char) : Option (Instant.Local × List Char) := do
  let (date, cs) ← date? cs
  let cs ← clockMark? cs
  let (hour, cs) ← number? cs
  let cs ← separator? ':' cs
  let (minute, cs) ← number? cs
  let cs ← separator? ':' cs
  let (second, cs) ← number? cs
  let (nano, cs) ← fraction? cs
  let (offset, cs) ← offset? cs
  some (⟨date, hour, minute, second, nano, offset⟩, cs)

end TimeReader

namespace Instant
open Text

def parse? (text : String) : Option Instant :=
  match TimeReader.local? text.toList with
  | some (l, rest) => if (dropBlanks rest).isEmpty then ofLocal? l else none
  | none => none

def ofJson? (j : Json) : Option Instant := j.string?.bind parse?

def toJson (t : Instant) : Json := .string t.text

end Instant
end MissionTracking
