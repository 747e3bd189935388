import MissionTracking.Proofs.Sql.Select
import MissionTracking.Proofs.Text.ByteOrder
import MissionTracking.Json.Basic
import MissionTracking.Text.Fold

/-!
What a statement means over the rows of a table, as far as that is the same for every locale and
every plan of the database. An expression has no value where it is refused or where the language
leaves the value open: a text is ordered and its case folded only by the collation `C`, which
compares bytes and knows the letters A to Z. Conditions have three truth values. Rows that tie, or
that no order is asked for, may come in any order.
-/
namespace MissionTracking.Sql

inductive Datum where
  | null
  | truth (value : Bool)
  | number (value : Int)
  /-- Microseconds since the beginning of 1970. -/
  | time (microseconds : Int)
  | text (value : String) (bytewise : Bool)
  | document (value : Json)

abbrev Row := List (String × Datum)

namespace Datum

def isNull : Datum → Bool
  | .null => true
  | _ => false

def verdict? : Datum → Option (Option Bool)
  | .null => some none
  | .truth b => some (some b)
  | _ => none

def ofVerdict : Option Bool → Datum
  | none => .null
  | some b => .truth b

def compare? : Datum → Datum → Option Ordering
  | .number a, .number b => some (compare a b)
  | .time a, .time b => some (compare a b)
  | .text a true, .text b true => some (Text.byteOrder a b)
  | _, _ => none

end Datum

def bothTrue : Option Bool → Option Bool → Option Bool
  | some false, _ | _, some false => some false
  | some true, some true => some true
  | _, _ => none

def eitherTrue : Option Bool → Option Bool → Option Bool
  | some true, _ | _, some true => some true
  | some false, some false => some false
  | _, _ => none

namespace Comparison

def holds : Comparison → Ordering → Bool
  | .equal, o => o == .eq
  | .less, o => o == .lt
  | .lessEqual, o => o != .gt
  | .greater, o => o == .gt
  | .greaterEqual, o => o != .lt

/-- Texts are equal or not whatever their collation. -/
def result? (c : Comparison) : Datum → Datum → Option Datum
  | .null, _ | _, .null => some .null
  | .text a x, .text b y =>
    if c = .equal then some (.truth (a == b))
    else (Datum.compare? (.text a x) (.text b y)).map fun o => .truth (c.holds o)
  | a, b => (a.compare? b).map fun o => .truth (c.holds o)

end Comparison

def member? (document : Json) (key : String) : Option Json :=
  match document with
  | .object members => members.lookup key
  | _ => none

-- Only strings are needed, and null, which is an unset text.
def memberText? (document : Json) (key : String) : Option Datum :=
  match member? document key with
  | none | some .null => some .null
  | some (.string s) => some (.text s false)
  | _ => none

namespace Operator

def result? : Operator → Datum → Datum → Option Datum
  | .and, a, b => do
    let x ← a.verdict?
    let y ← b.verdict?
    some (.ofVerdict (bothTrue x y))
  | .or, a, b => do
    let x ← a.verdict?
    let y ← b.verdict?
    some (.ofVerdict (eitherTrue x y))
  | .compare c, a, b => c.result? a b
  | .member, .document d, .text key _ => some ((member? d key).elim .null .document)
  | .memberText, .document d, .text key _ => memberText? d key
  | .member, _, _ | .memberText, _, _ => none

end Operator

/-- Where a text first stands in another, counted from one; zero when it does not. -/
def position (needle : List Char) : List Char → Nat
  | [] => if needle.isEmpty then 1 else 0
  | c :: cs =>
    if needle.isPrefixOf (c :: cs) then 1
    else
      match position needle cs with
      | 0 => 0
      | n + 1 => n + 2

def collated (collation : String) : Datum → Option Datum
  | .null => some .null
  | .text s _ => if collation = "C" then some (.text s true) else none
  | _ => none

def call (function : String) (a : Datum) : Option Datum :=
  if function = "lower" then
    match a with
    | .null => some .null
    | .text s true => some (.text (Text.foldCase s) true)
    | _ => none
  else none

def callWith (function : String) (a b : Datum) : Option Datum :=
  if function = "strpos" then
    match a, b with
    | .null, _ | _, .null => some .null
    | .text s _, .text needle _ => some (.number (position needle.toList s.toList))
    | _, _ => none
  else none

def elements? (function : String) (a : Datum) : Option (List Json) :=
  if function = "jsonb_array_elements" then
    match a with
    | .null => some []
    | .document (.array js) => some js
    | _ => none
  else none

namespace Expr

/-- The value of an expression in a row, with the bound values in the order of their numbers, which
begin at one. -/
def eval (values : List Datum) : Expr → Row → Option Datum
  | .name s, row => row.lookup s
  | .placeholder n, _ => if n = 0 then none else values[n - 1]?
  | .number n, _ => some (.number n)
  | .literal s, _ => some (.text s false)
  | .group e, row => e.eval values row
  | .call f a, row => (a.eval values row).bind (Sql.call f)
  | .callWith f a b, row => do
    let x ← a.eval values row
    let y ← b.eval values row
    Sql.callWith f x y
  | .collate e c, row => (e.eval values row).bind (collated c)
  | .isNull e, row => (e.eval values row).map fun d => .truth d.isNull
  | .binary op l r, row => do
    let x ← l.eval values row
    let y ← r.eval values row
    op.result? x y
  | .existsIn f a element c, row => do
    let js ← (a.eval values row).bind (elements? f)
    let verdicts ← js.mapM fun j =>
      (c.eval values ((element, .document j) :: row)).bind Datum.verdict?
    some (.truth (verdicts.contains (some true)))

end Expr

theorem eval_placeholder (before later : List Datum) (d : Datum) (row : Row) :
    (Expr.placeholder (before.length + 1)).eval (before ++ d :: later) row = some d := by
  rw [Expr.eval, if_neg (Nat.succ_ne_zero _), Nat.add_sub_cancel,
    List.getElem?_append_right (Nat.le_refl _), Nat.sub_self, List.getElem?_cons_zero]

section
variable {values : List Datum} {row : Row} {l r : Expr} {x y : Datum}

theorem eval_binary (op : Operator) (left : l.eval values row = some x)
    (right : r.eval values row = some y) :
    (Expr.binary op l r).eval values row = op.result? x y := by
  change ((l.eval values row).bind fun x => (r.eval values row).bind (op.result? x)) = _
  rw [left, right, Option.bind_some, Option.bind_some]

theorem eval_callWith (f : String) (left : l.eval values row = some x)
    (right : r.eval values row = some y) :
    (Expr.callWith f l r).eval values row = callWith f x y := by
  change ((l.eval values row).bind fun x => (r.eval values row).bind (callWith f x)) = _
  rw [left, right, Option.bind_some, Option.bind_some]

theorem eval_existsIn {f element : String} {js : List Json} {verdicts : List (Option Bool)}
    (elements : (l.eval values row).bind (elements? f) = some js)
    (decided : (js.mapM fun j =>
      (r.eval values ((element, .document j) :: row)).bind Datum.verdict?) = some verdicts) :
    (Expr.existsIn f l element r).eval values row =
      some (.truth (verdicts.contains (some true))) := by
  simp only [Expr.eval, elements, decided, Option.bind_eq_bind, Option.bind_some]

end

namespace Term

/-- Unset values tie. When it is not said where they go, they count as the greatest. -/
def compare? (values : List Datum) (t : Term) (a b : Row) : Option Ordering := do
  let x ← t.key.eval values a
  let y ← t.key.eval values b
  let first := t.nullsFirst.getD (!t.ascending)
  match x.isNull, y.isNull with
  | true, true => some .eq
  | true, false => some (if first then .lt else .gt)
  | false, true => some (if first then .gt else .lt)
  | false, false => (x.compare? y).map fun o => if t.ascending then o else o.swap

end Term

def compareTerms? (values : List Datum) : List Term → Row → Row → Option Ordering
  | [], _, _ => some .eq
  | t :: ts, a, b => do
    let first ← t.compare? values a b
    let rest ← compareTerms? values ts a b
    some (first.then rest)

structure Arranged (values : List Datum) (order : List Term) (rows arranged : List Row) : Prop where
  perm : arranged.Perm rows
  sorted : arranged.Pairwise fun a b => ∃ o, compareTerms? values order a b = some o ∧ o.isLE = true

def rowCount? (values : List Datum) (e : Expr) : Option Nat :=
  match e.eval values [] with
  | some (.number (.ofNat n)) => some n
  | _ => none

namespace Select
variable (values : List Datum) (s : Select)

def passes? (row : Row) : Option Bool :=
  match s.condition with
  | none => some true
  | some e => ((e.eval values row).bind Datum.verdict?).map fun v => v == some true

/-- The rows whose condition is true, provided that it has a value for every row. -/
def passing? (rows : List Row) : Option (List Row) :=
  if rows.all fun row => (s.passes? values row).isSome then
    some (rows.filter fun row => s.passes? values row == some true)
  else none

def part? (rows : List Row) : Option (List Row) := do
  let rows ←
    match s.offset with
    | none => some rows
    | some e => (rowCount? values e).map fun n => rows.drop n
  match s.limit with
  | none => some rows
  | some e => (rowCount? values e).map fun n => rows.take n

/-- The answers that a statement over a table can have, one value for each row of an answer. -/
inductive Answers (rows : List Row) : List Datum → Prop where
  | count {kept : List Row} (target : s.target = .aggregate "count")
      (whole : s.order = [] ∧ s.limit = none ∧ s.offset = none)
      (passing : s.passing? values rows = some kept) :
      Answers rows [.number kept.length]
  | column {c : String} {kept arranged shown : List Row} {answer : List Datum}
      (target : s.target = .column c)
      (passing : s.passing? values rows = some kept) (order : Arranged values s.order kept arranged)
      (part : s.part? values arranged = some shown)
        (shows : shown.mapM (fun row => row.lookup c) = some answer) :
      Answers rows answer

end Select
end MissionTracking.Sql
