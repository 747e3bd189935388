import MissionTracking.Settings.Yaml.Cursor

/-!
Texts of a YAML document that the layout delimits: all lines that are indented as much as the first
one. The lines are kept or folded; what becomes of the ends of lines after the last one is said in
the header.
-/
namespace MissionTracking.Yaml

inductive Chomping where
  | clip
  | strip
  | keep
deriving DecidableEq, Repr

def Chomping.ofChar? (c : Char) : Option Chomping :=
  if c = '+' then some .keep else if c = '-' then some .strip else none

structure BlockHeader where
  chomping : Chomping
  indent : Option Nat
deriving DecidableEq, Repr

def indentDigit? : List Char → Option (Option Nat × List Char)
  | c :: cs =>
    if c.isDigit then if c = '0' then none else some (some (c.toNat - '0'.toNat), cs)
    else some (none, c :: cs)
  | [] => some (none, [])

def BlockHeader.ofChars? (cs : List Char) : Option (BlockHeader × List Char) := do
  match cs.head?.bind Chomping.ofChar? with
  | some chomping =>
    let (indent, rest) ← indentDigit? cs.tail
    some (⟨chomping, indent⟩, rest)
  | none =>
    let (indent, rest) ← indentDigit? cs
    match indent, rest.head?.bind Chomping.ofChar? with
    | some n, some chomping => some (⟨chomping, some n⟩, rest.tail)
    | indent, _ => some (⟨.clip, indent⟩, rest)

/-- Goes over empty lines, each with at most `indent` spaces, and the spaces that indent the next
one. The number of empty lines is given too. -/
def overIndent (indent : Nat) : (fuel : Nat) → (breaks : Nat) → Cursor → Nat × Cursor
  | 0, breaks, c => (breaks, c)
  | fuel + 1, breaks, c =>
    let spaces := (c.rest.takeWhile (· = ' ')).take (indent - c.column)
    let c := c.overSpaces spaces.length
    if c.head?.any isBreak then overIndent indent fuel (breaks + 1) c.overBreak else (breaks, c)

/-- Goes over empty lines with any number of spaces, and the spaces of the next one. The largest
number of spaces is given too. -/
def overFirstIndent : (fuel : Nat) → (breaks widest : Nat) → Cursor → Nat × Nat × Cursor
  | 0, breaks, widest, c => (breaks, widest, c)
  | fuel + 1, breaks, widest, c =>
    let c := c.overSpaces (c.rest.takeWhile (· = ' ')).length
    let widest := max widest c.column
    if c.head?.any isBreak then overFirstIndent fuel (breaks + 1) widest c.overBreak
    else (breaks, widest, c)

/-- What has been read of the lines, in reverse, and the ends of lines since: of the last line, and
of empty ones. -/
structure BlockDraft where
  done : List Char
  hasBreak : Bool
  empty : Nat
  isSpaced : Bool

namespace BlockDraft

/-- The ends of lines before a line, where folding makes a space of a single one. Lines that begin
with white space are not folded. -/
def joined (d : BlockDraft) (isFolded isSpaced : Bool) : List Char :=
  if isFolded && d.hasBreak && !d.isSpaced && !isSpaced then
    if d.empty = 0 then [' '] else List.replicate d.empty '\n'
  else List.replicate (d.empty + d.hasBreak.toNat) '\n'

/-- The text with the end that is due. The last line had an end only if the document goes on after
it. -/
def chomped (d : BlockDraft) (chomping : Chomping) (isUnended : Bool) : String :=
  let kept := match chomping with
    | .strip => 0
    | .clip => d.hasBreak.toNat + isUnended.toNat
    | .keep => d.hasBreak.toNat + isUnended.toNat + d.empty
  String.ofList (d.done.reverse ++ List.replicate kept '\n')

end BlockDraft

def blockLines (isFolded : Bool) (indent : Nat) :
    (fuel : Nat) → BlockDraft → Cursor → BlockDraft × Cursor
  | 0, d, c => (d, c)
  | fuel + 1, d, c =>
    if c.column ≠ indent ∨ c.rest.isEmpty ∨ (indent = 0 ∧ c.isAtMark '.') then (d, c)
    else
      let isSpaced := c.head?.any isSpace
      let line := c.rest.takeWhile fun c => !isBreak c
      let done := line.reverse ++ ((d.joined isFolded isSpaced).reverse ++ d.done)
      let c := c.past line.length
      if c.rest.isEmpty then (⟨done, false, 0, isSpaced⟩, c)
      else
        let (empty, c) := overIndent indent (c.rest.length + 1) 0 c.overBreak
        blockLines isFolded indent fuel ⟨done, true, empty, isSpaced⟩ c

def block? (isFolded : Bool) (outer : Int) (c : Cursor) : Option (String × Cursor) := do
  let (header, rest) ← BlockHeader.ofChars? c.rest
  let first := c.line
  let c ← (c.past (c.rest.length - rest.length)).toLineEnd?
  let hasBreak := !c.rest.isEmpty
  let c := c.overBreak
  if c.head? = some '\t' then none
  else
    let (empty, indent, c) := match header.indent with
      | some n =>
        let indent := n + (max outer 0).toNat
        let (empty, c) := overIndent indent (c.rest.length + 1) 0 c
        (empty, indent, c)
      | none =>
        let (empty, widest, c) := overFirstIndent (c.rest.length + 1) 0 0 c
        (empty, max widest (max (outer + 1) (if 0 < outer then 1 else 0)).toNat, c)
    if c.rest.isEmpty then
      let ends := match header.chomping with
        | .strip => 0
        | .clip => hasBreak.toNat
        | .keep => if empty = 0 then hasBreak.toNat else empty
      some (String.ofList (List.replicate (if c.line = first then 0 else ends) '\n'), c)
    else if c.column < indent ∧ outer < (c.column : Int) then none
    else
      let (d, c) := blockLines isFolded indent (c.rest.length + 1) ⟨[], false, empty, false⟩ c
      some (d.chomped header.chomping (c.rest.isEmpty && decide (max indent 1 ≤ c.column)), c)

end MissionTracking.Yaml
