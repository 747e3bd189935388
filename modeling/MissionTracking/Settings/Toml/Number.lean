import MissionTracking.Settings.Scalar
import MissionTracking.Text.Hexadecimal

/-!
Numbers of a TOML document. Single underscores may stand between the digits of every number. Whole
numbers have a sign or the letter of their base, but not both; all have 64 bits. Reals have a
fraction or an exponent, or are one of the named ones; a number that is too large for a double is an
error.
-/
namespace MissionTracking.Toml
open Text

/-- Digits between which single underscores may stand. -/
def digits? (isDigit : Char → Bool) (cs : List Char) : Option (List Char) :=
  let groups := cs.splitOn '_'
  if groups.all fun g => !g.isEmpty && g.all isDigit then some groups.flatten else none

def whole? (cs : List Char) : Option (List Char) :=
  (digits? Char.isDigit cs).filter fun ds => ds.length == 1 || ds.head? != some '0'

def inBase? (base : Nat) (cs : List Char) : Option (List Char) :=
  digits? (fun c => (hexValue? c).any fun n => decide (n < base)) cs

def valueIn (base : Nat) (ds : List Char) : Nat :=
  ds.foldl (fun n c => n * base + (hexValue? c).getD 0) 0

def signed : List Char → List Char × List Char
  | '-' :: cs => (['-'], cs)
  | '+' :: cs => ([], cs)
  | cs => ([], cs)

def integer? : List Char → Option Scalar
  | '0' :: 'x' :: cs => based? 16 cs
  | '0' :: 'o' :: cs => based? 8 cs
  | '0' :: 'b' :: cs => based? 2 cs
  | cs => do
    let (sign, cs) := signed cs
    let ds ← whole? cs
    (Scalar.int64? (sign ++ ds)).map .int
where
  based? (base : Nat) (cs : List Char) : Option Scalar := do
    let ds ← inBase? base cs
    (Scalar.int64? (digits (valueIn base ds))).map .int

def fraction? : List Char → Option (List Char × List Char)
  | '.' :: cs =>
    let isPart (c : Char) : Bool := c.isDigit || c = '_'
    (digits? Char.isDigit (cs.takeWhile isPart)).map fun ds => ('.' :: ds, cs.dropWhile isPart)
  | cs => some ([], cs)

def exponent? : List Char → Option (List Char)
  | [] => some []
  | c :: cs =>
    if c = 'e' ∨ c = 'E' then
      let (sign, cs) := signed cs
      (digits? Char.isDigit cs).map fun ds => 'e' :: (sign ++ ds)
    else none

def real? (cs : List Char) : Option Scalar := do
  let (sign, body) := signed cs
  if body = ['i', 'n', 'f'] ∨ body = ['n', 'a', 'n'] then (Double.ofChars? (sign ++ body)).map .real
  else
    let isPart (c : Char) : Bool := c.isDigit || c = '_'
    let whole ← whole? (body.takeWhile isPart)
    let (fraction, rest) ← fraction? (body.dropWhile isPart)
    let exponent ← exponent? rest
    let x ← Double.ofChars? (sign ++ whole ++ fraction ++ exponent)
    if fraction.isEmpty && exponent.isEmpty || x = .infinite false then none else some (.real x)

def word? (cs : List Char) : Option Scalar :=
  if cs = ['t', 'r', 'u', 'e'] then some (.bool true)
  else if cs = ['f', 'a', 'l', 's', 'e'] then some (.bool false)
  else integer? cs <|> real? cs

end MissionTracking.Toml
