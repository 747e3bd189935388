import MissionTracking.Json.Basic
import MissionTracking.Text.Decimal
import MissionTracking.Text.Hexadecimal

/-!
The tokens of a JSON text. Reading is strict: the only white space is space, tab, line feed and
carriage return, a string holds no control character, and a number has no leading zero. An escape
may spell half of a surrogate pair, but the string then has no content. Every other token is written
in one way and reads back as itself.
-/
namespace MissionTracking.Json
open Text

inductive Token where
  | openObject
  | closeObject
  | openArray
  | closeArray
  | colon
  | comma
  | string (value : String)
  /-- A string with half of a surrogate pair. -/
  | unpaired
  | scalar (value : Json)

def isSpace (c : Char) : Bool := c = ' ' || c = '\t' || c = '\n' || c = '\r'

/-- The character after `\u`, one unit or a high surrogate followed by an escaped low one, and the
number of characters of its spelling with the letter. Half of a pair is no character. -/
def escapedUnit? (cs : List Char) : Option (Option Char × Nat) := do
  let u ← hexNumber? 4 cs
  if u < 0xD800 ∨ 0xDFFF < u then some (some (Char.ofNat u), 5)
  else
    match cs.drop 4 with
    | '\\' :: 'u' :: cs =>
      match hexNumber? 4 cs with
      | some v =>
        if u < 0xDC00 ∧ 0xDC00 ≤ v ∧ v ≤ 0xDFFF then
          some (some (Char.ofNat (0x10000 + (u - 0xD800) * 0x400 + (v - 0xDC00))), 11)
        else some (none, 5)
      | none => none
    | _ => some (none, 5)

def escaped? : List Char → Option (Option Char × Nat)
  | '"' :: _ => some ('"', 1)
  | '\\' :: _ => some ('\\', 1)
  | '/' :: _ => some ('/', 1)
  | 'b' :: _ => some ('\x08', 1)
  | 'f' :: _ => some ('\x0c', 1)
  | 'n' :: _ => some ('\n', 1)
  | 'r' :: _ => some ('\r', 1)
  | 't' :: _ => some ('\t', 1)
  | 'u' :: cs => escapedUnit? cs
  | _ => none

def consUnit (c : Option Char) (cs : Option (List Char)) : Option (List Char) :=
  c.bind fun c => cs.map (c :: ·)

/-- The content of a string up to its closing quote, and what follows the quote. The first `skip`
characters spell an escape that has been read. -/
def stringBody? : Nat → List Char → Option (Option (List Char) × List Char)
  | 0, '"' :: cs => some (some [], cs)
  | 0, '\\' :: cs =>
    match escaped? cs with
    | some (c, width) => (stringBody? width cs).map fun body => (consUnit c body.1, body.2)
    | none => none
  | 0, c :: cs =>
    if c.toNat < 0x20 then none
    else (stringBody? 0 cs).map fun body => (consUnit (some c) body.1, body.2)
  | skip + 1, _ :: cs => stringBody? skip cs
  | _, [] => none

theorem stringBody?_length {skip : Nat} {cs : List Char} :
    ∀ {body : Option (List Char)} {rest : List Char}, stringBody? skip cs = some (body, rest) →
      rest.length < cs.length := by
  fun_induction stringBody? skip cs with
  | case1 cs =>
    intro body rest h
    cases Option.some.inj h
    exact Nat.lt_succ_self _
  | case2 cs c width _ ih =>
    intro body rest h
    obtain ⟨inner, hinner, hpair⟩ := Option.map_eq_some_iff.1 h
    cases hpair
    exact Nat.lt_succ_of_lt (ih hinner)
  | case5 c cs _ _ _ ih =>
    intro body rest h
    obtain ⟨inner, hinner, hpair⟩ := Option.map_eq_some_iff.1 h
    cases hpair
    exact Nat.lt_succ_of_lt (ih hinner)
  | case6 skip c cs ih =>
    intro body rest h
    exact Nat.lt_succ_of_lt (ih h)
  | case3 | case4 | case7 =>
    intro body rest h
    contradiction

def stringToken : Option (List Char) → Token
  | some cs => .string (String.ofList cs)
  | none => .unpaired

def isNumberChar (c : Char) : Bool :=
  c.isDigit || c = '-' || c = '+' || c = '.' || c = 'e' || c = 'E'

def isWholePart (cs : List Char) : Bool :=
  cs == ['0'] || (!cs.isEmpty && cs.head? != some '0' && cs.all Char.isDigit)

def isExponent : List Char → Bool
  | [] => true
  | c :: cs => (c = 'e' || c = 'E') && (integer? cs).isSome

def isFraction : List Char → Bool
  | '.' :: cs => !(cs.takeWhile Char.isDigit).isEmpty && isExponent (cs.dropWhile Char.isDigit)
  | cs => isExponent cs

/-- The number that a whole run of number characters spells. Minus zero is no integer. -/
def number? (cs : List Char) : Option Json :=
  let negative := cs.head? == some '-'
  let body := if negative then cs.tail else cs
  let whole := body.takeWhile Char.isDigit
  let rest := body.dropWhile Char.isDigit
  if isWholePart whole && isFraction rest then
    if rest.isEmpty && !(negative && whole == ['0']) then
      some (.int (if negative then -(digitsValue whole : Int) else digitsValue whole))
    else some (.real (String.ofList cs))
  else none

def token? : List Char → Option (Token × List Char)
  | '{' :: cs => some (.openObject, cs)
  | '}' :: cs => some (.closeObject, cs)
  | '[' :: cs => some (.openArray, cs)
  | ']' :: cs => some (.closeArray, cs)
  | ':' :: cs => some (.colon, cs)
  | ',' :: cs => some (.comma, cs)
  | '"' :: cs => (stringBody? 0 cs).map fun body => (stringToken body.1, body.2)
  | 'n' :: 'u' :: 'l' :: 'l' :: cs => some (.scalar .null, cs)
  | 't' :: 'r' :: 'u' :: 'e' :: cs => some (.scalar (.bool true), cs)
  | 'f' :: 'a' :: 'l' :: 's' :: 'e' :: cs => some (.scalar (.bool false), cs)
  | c :: cs =>
    if isNumberChar c then
      (number? (c :: cs.takeWhile isNumberChar)).map fun n => (.scalar n, cs.dropWhile isNumberChar)
    else none
  | [] => none

theorem token?_length {cs rest : List Char} {t : Token} (h : token? cs = some (t, rest)) :
    rest.length < cs.length := by
  unfold token? at h
  split at h
  case h_7 =>
    simp only [Option.map_eq_some_iff, Prod.mk.injEq] at h
    obtain ⟨⟨b, r⟩, hb, _, rfl⟩ := h
    exact Nat.lt_succ_of_lt (stringBody?_length hb)
  case h_11 =>
    split at h
    · simp only [Option.map_eq_some_iff, Prod.mk.injEq] at h
      obtain ⟨_, _, _, rfl⟩ := h
      exact Nat.lt_succ_of_le (List.dropWhile_sublist _).length_le
    · contradiction
  all_goals
    first
    | contradiction
    | (simp only [Option.some.injEq, Prod.mk.injEq] at h
       rw [← h.2]
       simp only [List.length_cons]
       omega)

def tokens? (cs : List Char) : Option (List Token) :=
  match hd : cs.dropWhile isSpace with
  | [] => some []
  | c :: tail =>
    match h : token? (c :: tail) with
    | some (t, rest) =>
      have : rest.length < cs.length := by
        have h₁ := token?_length h
        have h₂ : (cs.dropWhile isSpace).length ≤ cs.length := (List.dropWhile_sublist _).length_le
        rw [hd] at h₂
        omega
      (tokens? rest).map (t :: ·)
    | none => none
termination_by cs.length

end MissionTracking.Json
