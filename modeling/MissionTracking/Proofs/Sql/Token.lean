import MissionTracking.Sql.Listing
import MissionTracking.Text.Decimal

/-!
The tokens of a statement. A word is a key word or a name, in any case, or a number or the place of
a bound value; what stands between double quotes is a name as it is and what stands between single
quotes a text. Signs are read as far as they go. A text is read character by character, so that the
tokens of texts that follow each other follow each other too, unless a word or a sign runs on.
-/
namespace MissionTracking.Sql
open Text

inductive Keyword where
  | SELECT | FROM | WHERE | AND | OR | IS | NULL | EXISTS | AS | COLLATE
  | ORDER | BY | ASC | DESC | NULLS | FIRST | LAST | LIMIT | OFFSET
deriving DecidableEq, Repr

inductive Sign where
  | star
  | equal
  | less
  | lessEqual
  | greater
  | greaterEqual
  | member
  | memberText
deriving DecidableEq, Repr

inductive Token where
  | keyword (word : Keyword)
  | name (text : String)
  | quoted (text : String)
  | literal (text : String)
  | number (value : Nat)
  | placeholder (number : Nat)
  | sign (sign : Sign)
  | openParen
  | closeParen
  | comma
  | unreadable
deriving DecidableEq, Repr

namespace Keyword

def all : List Keyword :=
  [.SELECT, .FROM, .WHERE, .AND, .OR, .IS, .NULL, .EXISTS, .AS, .COLLATE, .ORDER, .BY, .ASC, .DESC,
    .NULLS, .FIRST, .LAST, .LIMIT, .OFFSET]

def text : Keyword → String
  | .SELECT => "select"
  | .FROM => "from"
  | .WHERE => "where"
  | .AND => "and"
  | .OR => "or"
  | .IS => "is"
  | .NULL => "null"
  | .EXISTS => "exists"
  | .AS => "as"
  | .COLLATE => "collate"
  | .ORDER => "order"
  | .BY => "by"
  | .ASC => "asc"
  | .DESC => "desc"
  | .NULLS => "nulls"
  | .FIRST => "first"
  | .LAST => "last"
  | .LIMIT => "limit"
  | .OFFSET => "offset"

end Keyword

namespace Sign

def all : List Sign :=
  [.star, .equal, .less, .lessEqual, .greater, .greaterEqual, .member, .memberText]

def text : Sign → String
  | .star => "*"
  | .equal => "="
  | .less => "<"
  | .lessEqual => "<="
  | .greater => ">"
  | .greaterEqual => ">="
  | .member => "->"
  | .memberText => "->>"

end Sign

def isWordChar (c : Char) : Bool := c.isAlphanum || c == '_' || c == '$'

def isSignChar (c : Char) : Bool :=
  ['+', '-', '*', '/', '<', '>', '=', '~', '!', '@', '#', '%', '^', '&', '|'].contains c

namespace Token

def ofWord : List Char → Token
  | '$' :: ds =>
    match natural? ds with
    | some n => .placeholder n
    | none => .unreadable
  | cs =>
    match natural? cs with
    | some n => .number n
    | none =>
      if cs.head?.any Char.isDigit then .unreadable
      else
        let word := foldCase (String.ofList cs)
        match Keyword.all.find? fun k => k.text == word with
        | some k => .keyword k
        | none => .name word

def ofSign (cs : List Char) : Token :=
  match Sign.all.find? fun s => s.text == String.ofList cs with
  | some s => .sign s
  | none => .unreadable

end Token

/-- What has been begun and not ended, its characters in reverse. -/
inductive Pending where
  | nothing
  | word (cs : List Char)
  | sign (cs : List Char)
  | quoted (cs : List Char)
  | literal (cs : List Char)

namespace Pending

def close : Pending → List Token
  | .nothing => []
  | .word cs => [Token.ofWord cs.reverse]
  | .sign cs => [Token.ofSign cs.reverse]
  | .quoted _ | .literal _ => [.unreadable]

def start (c : Char) : List Token × Pending :=
  if c.isWhitespace then ([], .nothing)
  else if c == '(' then ([.openParen], .nothing)
  else if c == ')' then ([.closeParen], .nothing)
  else if c == ',' then ([.comma], .nothing)
  else if c == '"' then ([], .quoted [])
  else if c == '\'' then ([], .literal [])
  else if isWordChar c then ([], .word [c])
  else if isSignChar c then ([], .sign [c])
  else ([.unreadable], .nothing)

def step (p : Pending) (c : Char) : List Token × Pending :=
  match p with
  | .nothing => start c
  | .word cs =>
    if isWordChar c then ([], .word (c :: cs)) else (p.close ++ (start c).1, (start c).2)
  | .sign cs =>
    if isSignChar c then ([], .sign (c :: cs)) else (p.close ++ (start c).1, (start c).2)
  | .quoted cs =>
    if c == '"' then ([.quoted (String.ofList cs.reverse)], .nothing) else ([], .quoted (c :: cs))
  | .literal cs =>
    if c == '\'' then ([.literal (String.ofList cs.reverse)], .nothing)
    else ([], .literal (c :: cs))

end Pending

def scan (p : Pending) : List Char → List Token
  | [] => p.close
  | c :: cs => (p.step c).1 ++ scan (p.step c).2 cs

def tokens (text : String) : List Token := scan .nothing text.toList

/-- Nothing that a word or a sign can run on into. -/
def Breaks (rest : List Char) : Prop :=
  ∀ c ∈ rest.head?, isWordChar c = false ∧ isSignChar c = false

theorem scan_word {cs : List Char} (word : ∀ c ∈ cs, isWordChar c = true)
    (before rest : List Char) :
    scan (.word before) (cs ++ rest) = scan (.word (cs.reverse ++ before)) rest := by
  induction cs generalizing before with
  | nil => rfl
  | cons c cs ih =>
    have ⟨first, others⟩ := List.forall_mem_cons.mp word
    rw [List.cons_append, scan, Pending.step, if_pos first, List.nil_append, ih others,
      List.reverse_cons, List.append_assoc, List.singleton_append]

theorem scan_word_end {rest : List Char} (breaks : Breaks rest) (cs : List Char) :
    scan (.word cs) rest = Token.ofWord cs.reverse :: scan .nothing rest := by
  cases rest with
  | nil => rfl
  | cons c rest =>
    have ends := (breaks c rfl).1
    rw [scan, Pending.step, if_neg (by rw [ends]; exact Bool.false_ne_true)]
    rfl

theorem start_word {c : Char} (word : isWordChar c = true) : Pending.start c = ([], .word [c]) := by
  have other (d : Char) (separates : isWordChar d = false) : (c == d) = false := by
    rw [beq_eq_false_iff_ne]
    rintro rfl
    rw [word] at separates
    cases separates
  -- White space is none of the separators, so it is told apart on its own.
  have dark : c.isWhitespace = false := by
    simp only [Char.isWhitespace, Bool.or_eq_false_iff, decide_eq_false_iff_not]
    refine ⟨⟨⟨?_, ?_⟩, ?_⟩, ?_⟩ <;> rintro rfl <;> cases word
  simp only [Pending.start, dark, other '(' rfl, other ')' rfl, other ',' rfl, other '"' rfl,
    other '\'' rfl, word, if_true, Bool.false_eq_true, if_false]

theorem scan_whole_word {cs rest : List Char} (word : ∀ c ∈ cs, isWordChar c = true)
    (filled : cs ≠ []) (breaks : Breaks rest) :
    scan .nothing (cs ++ rest) = Token.ofWord cs :: scan .nothing rest := by
  obtain ⟨c, cs, rfl⟩ := List.exists_cons_of_ne_nil filled
  have ⟨first, others⟩ := List.forall_mem_cons.mp word
  rw [List.cons_append, scan, Pending.step, start_word first, List.nil_append, scan_word others,
    scan_word_end breaks, List.reverse_append, List.reverse_reverse]
  rfl

theorem natural?_digits (n : Nat) : natural? (digits n) = some n := by
  have all_digits : (digits n).all Char.isDigit = true := by
    rw [List.all_eq_true]
    intro c member
    exact Nat.isDigit_of_mem_toDigits (by decide) (by decide) member
  rw [natural?, if_pos ⟨Nat.toDigits_ne_nil, all_digits⟩, digitsValue_digits]

theorem scan_placeholder {rest : List Char} (breaks : Breaks rest) (n : Nat) :
    scan .nothing ('$' :: (digits n ++ rest)) = .placeholder n :: scan .nothing rest := by
  have word : ∀ c ∈ '$' :: digits n, isWordChar c = true := by
    rw [List.forall_mem_cons]
    refine ⟨rfl, fun c member => ?_⟩
    have digit := Nat.isDigit_of_mem_toDigits (by decide) (by decide) member
    simp only [isWordChar, Char.isAlphanum, digit, Bool.or_true, Bool.true_or]
  rw [← List.cons_append, scan_whole_word word (List.cons_ne_nil _ _) breaks, Token.ofWord,
    natural?_digits]

namespace Column

def token (c : Column) : Token := .name c.text

theorem scan_text {rest : List Char} (breaks : Breaks rest) (c : Column) :
    scan .nothing (c.text.toList ++ rest) = c.token :: scan .nothing rest := by
  have word : ∀ d ∈ c.text.toList, isWordChar d = true :=
    List.all_eq_true.mp (by cases c <;> decide)
  have filled : c.text.toList ≠ [] := by cases c <;> decide
  have name : Token.ofWord c.text.toList = c.token := by cases c <;> decide
  rw [scan_whole_word word filled breaks, name]

end Column
end MissionTracking.Sql
