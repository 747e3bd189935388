import MissionTracking.Text.Hexadecimal

/-!
Texts of a TOML document. Between double quotes a backslash begins an escape, between single quotes
every character stands for itself. Three quotes in a row begin a text over several lines; the line
feed after them does not count, and a backslash at the end of a line joins it with the next one that
is not blank. Lines end with a line feed.
-/
namespace MissionTracking.Toml
open Text

def isPlain (c : Char) : Bool := c = '\t' || (decide (0x20 ≤ c.toNat) && decide (c.toNat ≠ 0x7F))

def isSpace (c : Char) : Bool := c = ' ' || c = '\t'

def dropSpaces (cs : List Char) : List Char := cs.dropWhile isSpace

def doubleQuote : Char := '"'

def singleQuote : Char := '\x27'

/-- The character of a code point in `width` hexadecimal digits, and the number of characters of its
spelling with the letter before them. -/
def codePoint? (width : Nat) (cs : List Char) : Option (Char × Nat) := do
  let n ← hexNumber? width cs
  if h : n.isValidChar then some (Char.ofNatAux n h, width + 1) else none

def escaped? : List Char → Option (Char × Nat)
  | 'b' :: _ => some ('\x08', 1)
  | 't' :: _ => some ('\t', 1)
  | 'n' :: _ => some ('\n', 1)
  | 'f' :: _ => some ('\x0c', 1)
  | 'r' :: _ => some ('\r', 1)
  | '"' :: _ => some ('"', 1)
  | '\\' :: _ => some ('\\', 1)
  | 'u' :: cs => codePoint? 4 cs
  | 'U' :: cs => codePoint? 8 cs
  | _ => none

/-- The characters of a text on one line up to its closing quote, and what follows the quote. The
first `skip` characters spell an escape that has been read. -/
def line? (quote : Char) : Nat → List Char → Option (List Char × List Char)
  | 0, c :: cs =>
    if c = quote then some ([], cs)
    else if c = '\\' ∧ quote = doubleQuote then
      match escaped? cs with
      | some (e, width) => (line? quote width cs).map fun p => (e :: p.1, p.2)
      | none => none
    else if isPlain c then (line? quote 0 cs).map fun p => (c :: p.1, p.2)
    else none
  | skip + 1, _ :: cs => line? quote skip cs
  | _, [] => none

/-- The length of the white space that a backslash at the end of a line joins, if one ends there. -/
def joined? (cs : List Char) : Option Nat :=
  let blank := cs.takeWhile fun c => isSpace c || c = '\n'
  if blank.contains '\n' then some blank.length else none

def closing? (quote : Char) : List Char → Option (List Char)
  | a :: b :: cs => if a = quote ∧ b = quote then some cs else none
  | _ => none

/-- The characters of a text over several lines up to three quotes, and what follows them. Up to two
quotes may stand directly before the closing ones. -/
def lines? (quote : Char) : Nat → List Char → Option (List Char × List Char)
  | 0, c :: cs =>
    if c = quote then
      match closing? quote cs with
      | some rest =>
        let extra := (rest.takeWhile (· = quote)).take 2
        some (extra, rest.drop extra.length)
      | none => (lines? quote 0 cs).map fun p => (c :: p.1, p.2)
    else if c = '\\' ∧ quote = doubleQuote then
      match joined? cs, escaped? cs with
      | some width, _ => lines? quote width cs
      | none, some (e, width) => (lines? quote width cs).map fun p => (e :: p.1, p.2)
      | none, none => none
    else if isPlain c || c = '\n' then (lines? quote 0 cs).map fun p => (c :: p.1, p.2)
    else none
  | skip + 1, _ :: cs => lines? quote skip cs
  | _, [] => none

def quoted? (quote : Char) (cs : List Char) : Option (String × List Char) :=
  match closing? quote cs with
  | some cs =>
    let body := match cs with
      | '\n' :: cs => cs
      | cs => cs
    (lines? quote 0 body).map fun p => (String.ofList p.1, p.2)
  | none => (line? quote 0 cs).map fun p => (String.ofList p.1, p.2)

end MissionTracking.Toml
