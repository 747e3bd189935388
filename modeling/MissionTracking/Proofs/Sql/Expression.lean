import MissionTracking.Proofs.Sql.Token

/-!
Expressions and how they are read. An operator takes the nearest operands that bind tighter than it
does, operators of one kind group from the left, and parentheses are kept, so that an expression has
one row of tokens. Reading the tokens of an expression whose operands bind tightly enough gives back
that expression.
-/
namespace MissionTracking.Sql

inductive Comparison where
  | equal
  | less
  | lessEqual
  | greater
  | greaterEqual
deriving DecidableEq, Repr

inductive Operator where
  | or
  | and
  | compare (comparison : Comparison)
  | member
  | memberText
deriving DecidableEq, Repr

inductive Expr where
  | name (text : String)
  | placeholder (number : Nat)
  | number (value : Nat)
  | literal (text : String)
  | group (e : Expr)
  | call (function : String) (argument : Expr)
  | callWith (function : String) (first second : Expr)
  | collate (e : Expr) (collation : String)
  | isNull (e : Expr)
  | binary (op : Operator) (left right : Expr)
  | existsIn (function : String) (argument : Expr) (element : String) (condition : Expr)
deriving DecidableEq, Repr

def isPower : Nat := 3

def collatePower : Nat := 6

def operandPower : Nat := 7

namespace Comparison

def token : Comparison → Token
  | .equal => .sign .equal
  | .less => .sign .less
  | .lessEqual => .sign .lessEqual
  | .greater => .sign .greater
  | .greaterEqual => .sign .greaterEqual

end Comparison

namespace Operator

def power : Operator → Nat
  | .or => 1
  | .and => 2
  | .compare _ => 4
  | .member | .memberText => 5

def token : Operator → Token
  | .or => .keyword .OR
  | .and => .keyword .AND
  | .compare c => c.token
  | .member => .sign .member
  | .memberText => .sign .memberText

end Operator

namespace Token

def operator? : Token → Option Operator
  | .keyword .OR => some .or
  | .keyword .AND => some .and
  | .sign .equal => some (.compare .equal)
  | .sign .less => some (.compare .less)
  | .sign .lessEqual => some (.compare .lessEqual)
  | .sign .greater => some (.compare .greater)
  | .sign .greaterEqual => some (.compare .greaterEqual)
  | .sign .member => some .member
  | .sign .memberText => some .memberText
  | _ => none

end Token

namespace Expr

def tokens : Expr → List Token
  | .name s => [.name s]
  | .placeholder n => [.placeholder n]
  | .number n => [.number n]
  | .literal s => [.literal s]
  | .group e => .openParen :: (e.tokens ++ [.closeParen])
  | .call f a => .name f :: .openParen :: (a.tokens ++ [.closeParen])
  | .callWith f a b => .name f :: .openParen :: (a.tokens ++ .comma :: (b.tokens ++ [.closeParen]))
  | .collate e c => e.tokens ++ [.keyword .COLLATE, .quoted c]
  | .isNull e => e.tokens ++ [.keyword .IS, .keyword .NULL]
  | .binary op l r => l.tokens ++ op.token :: r.tokens
  | .existsIn f a element c =>
    .keyword .EXISTS :: .openParen :: .keyword .SELECT :: .number 1 :: .keyword .FROM :: .name f ::
        .openParen ::
      (a.tokens ++ .closeParen :: .keyword .AS :: .name element :: .keyword .WHERE ::
        (c.tokens ++ [.closeParen]))

def power : Expr → Nat
  | .collate _ _ => collatePower
  | .isNull _ => isPower
  | .binary op _ _ => op.power
  | _ => operandPower

/-- Every operand binds tighter than the operator that takes it; the one on the left may bind as
tight. -/
def Fits : Expr → Prop
  | .group e | .call _ e => e.Fits
  | .callWith _ a b | .existsIn _ a _ b => a.Fits ∧ b.Fits
  | .collate e _ => e.Fits ∧ collatePower ≤ e.power
  | .isNull e => e.Fits ∧ isPower ≤ e.power
  | .binary op l r => l.Fits ∧ r.Fits ∧ op.power ≤ l.power ∧ op.power < r.power
  | _ => True

end Expr

/-- What an expression can go on with. -/
inductive Suffix where
  | collate (collation : String)
  | isNull
  | operator (op : Operator)
deriving DecidableEq, Repr

def Suffix.power : Suffix → Nat
  | .collate _ => collatePower
  | .isNull => isPower
  | .operator op => op.power

def suffix? : List Token → Option (Suffix × List Token)
  | .keyword .COLLATE :: .quoted c :: ts => some (.collate c, ts)
  | .keyword .IS :: .keyword .NULL :: ts => some (.isNull, ts)
  | t :: ts => t.operator?.map fun op => (.operator op, ts)
  | [] => none

mutual

/-- An expression at the beginning of a row of tokens, and what follows it. Its operators bind
tighter than `floor`. -/
def expression : Nat → Nat → List Token → Option (Expr × List Token)
  | 0, _, _ => none
  | fuel + 1, floor, ts => (operand fuel ts).bind fun (e, ts) => operation fuel floor e ts

def operand : Nat → List Token → Option (Expr × List Token)
  | 0, _ => none
  | _ + 1, .placeholder n :: ts => some (.placeholder n, ts)
  | _ + 1, .number n :: ts => some (.number n, ts)
  | _ + 1, .literal s :: ts => some (.literal s, ts)
  | fuel + 1, .openParen :: ts =>
    match expression fuel 0 ts with
    | some (e, .closeParen :: ts) => some (.group e, ts)
    | _ => none
  | fuel + 1, .name f :: .openParen :: ts =>
    match expression fuel 0 ts with
    | some (a, .closeParen :: ts) => some (.call f a, ts)
    | some (a, .comma :: ts) =>
      match expression fuel 0 ts with
      | some (b, .closeParen :: ts) => some (.callWith f a b, ts)
      | _ => none
    | _ => none
  | _ + 1, .name s :: ts => some (.name s, ts)
  | fuel + 1,
    .keyword .EXISTS :: .openParen :: .keyword .SELECT :: .number 1 :: .keyword .FROM :: .name f ::
      .openParen :: ts =>
    match expression fuel 0 ts with
    | some (a, .closeParen :: .keyword .AS :: .name element :: .keyword .WHERE :: ts) =>
      match expression fuel 0 ts with
      | some (c, .closeParen :: ts) => some (.existsIn f a element c, ts)
      | _ => none
    | _ => none
  | _ + 1, _ => none

def operation : Nat → Nat → Expr → List Token → Option (Expr × List Token)
  | 0, _, _, _ => none
  | fuel + 1, floor, e, ts =>
    match suffix? ts with
    | none => some (e, ts)
    | some (s, rest) =>
      if s.power ≤ floor then some (e, ts)
      else
        match s with
        | .collate c => operation fuel floor (.collate e c) rest
        | .isNull => operation fuel floor (.isNull e) rest
        | .operator op =>
          (expression fuel op.power rest).bind fun (right, ts) =>
            operation fuel floor (.binary op e right) ts

end

/-- What follows an expression without going on with it: at most with something that binds no
tighter. -/
structure Ends (power : Nat) (rest : List Token) : Prop where
  closed : rest.head? ≠ some .openParen
  looser : ∀ {s : Suffix} {ts : List Token}, suffix? rest = some (s, ts) → s.power ≤ power

theorem Ends.mono {low high : Nat} {rest : List Token} (ends : Ends low rest) (le : low ≤ high) :
    Ends high rest :=
  ⟨ends.closed, fun found => Nat.le_trans (ends.looser found) le⟩

theorem operation_end {floor : Nat} {rest : List Token} (ends : Ends floor rest) (fuel : Nat)
    (e : Expr) : operation (fuel + 1) floor e rest = some (e, rest) := by
  rw [operation]
  cases found : suffix? rest with
  | none => rfl
  | some pair => simp only [ends.looser found, if_true]

theorem suffix?_operator (op : Operator) (ts : List Token) :
    suffix? (op.token :: ts) = some (.operator op, ts) := by
  cases op with
  | compare c => cases c <;> rfl
  | _ => rfl

theorem Operator.token_ne_openParen (op : Operator) : op.token ≠ .openParen := by
  cases op with
  | compare c => cases c <;> decide
  | _ => decide

theorem Ends.operator {power : Nat} {op : Operator} (looser : op.power ≤ power) (ts : List Token) :
    Ends power (op.token :: ts) where
  closed same := op.token_ne_openParen (Option.some.inj same)
  looser found := by
    rw [suffix?_operator] at found
    cases found
    exact looser

theorem Ends.of_none {t : Token} {ts : List Token} (closed : t ≠ .openParen)
    (none : suffix? (t :: ts) = none) (power : Nat) : Ends power (t :: ts) where
  closed same := closed (Option.some.inj same)
  looser found := by
    rw [none] at found
    cases found

namespace Expr

theorem power_pos (e : Expr) : 0 < e.power := by
  cases e with
  | binary op => cases op <;> exact Nat.succ_pos _
  | _ => exact Nat.succ_pos _

theorem tokens_pos (e : Expr) : 0 < e.tokens.length := by
  cases e <;> simp only [tokens, List.length_cons, List.length_append] <;> omega

/-- The tokens of an expression are read as that expression, and reading goes on with what follows
them. -/
structure Reads (e : Expr) : Prop where
  goesOn : ∀ (fuel floor : Nat) (rest : List Token), 2 * e.tokens.length < fuel → floor < e.power →
      Ends e.power rest →
    ∃ left, fuel ≤ left + 2 * e.tokens.length ∧
    expression fuel floor (e.tokens ++ rest) = operation left floor e rest

namespace Reads
variable {e a b l r : Expr}

theorem whole (h : e.Reads) {fuel floor : Nat} {rest : List Token}
    (enough : 2 * e.tokens.length < fuel) (below : floor < e.power) (ends : Ends floor rest) :
    expression fuel floor (e.tokens ++ rest) = some (e, rest) := by
  -- What follows ends the expression, so that one more step of reading is left and it takes
  -- nothing.
  obtain ⟨left, spare, read⟩ :=
    h.goesOn fuel floor rest enough below (ends.mono (Nat.le_of_lt below))
  obtain ⟨k, rfl⟩ : ∃ k, left = k + 1 := ⟨left - 1, by omega⟩
  rw [read, operation_end ends]

theorem part (h : e.Reads) {fuel : Nat} (enough : 2 * e.tokens.length < fuel) {t : Token}
    {ts : List Token} (closed : t ≠ .openParen) (none : suffix? (t :: ts) = none) :
    expression fuel 0 (e.tokens ++ t :: ts) = some (e, t :: ts) :=
  h.whole enough e.power_pos (.of_none closed none 0)

theorem of_operand (read : ∀ {fuel : Nat} {rest : List Token}, 2 * e.tokens.length ≤ fuel + 2 →
    rest.head? ≠ some .openParen → operand (fuel + 1) (e.tokens ++ rest) = some (e, rest)) :
    e.Reads := by
  constructor
  intro fuel floor rest enough below ends
  have filled := e.tokens_pos
  obtain ⟨k, rfl⟩ : ∃ k, fuel = k + 2 := ⟨fuel - 2, by omega⟩
  refine ⟨k + 1, by omega, ?_⟩
  rw [expression, read (by omega) ends.closed, Option.bind_some]

theorem name (s : String) : (Expr.name s).Reads := by
  apply of_operand
  intro fuel rest _ closed
  cases rest with
  | nil => rfl
  | cons t ts =>
    rw [tokens, List.singleton_append, operand]
    rintro ts' same
    cases same
    exact closed rfl

theorem placeholder (n : Nat) : (Expr.placeholder n).Reads := of_operand fun _ _ => rfl

theorem number (n : Nat) : (Expr.number n).Reads := of_operand fun _ _ => rfl

theorem literal (s : String) : (Expr.literal s).Reads := of_operand fun _ _ => rfl

theorem group (h : e.Reads) : (Expr.group e).Reads := by
  apply of_operand
  intro fuel rest enough _
  simp only [tokens, List.length_cons, List.length_append, List.length_nil] at enough
  rw [tokens, List.cons_append, List.append_assoc, List.singleton_append, operand,
    h.part (by omega) (by decide) rfl]

theorem call (f : String) (h : a.Reads) : (Expr.call f a).Reads := by
  apply of_operand
  intro fuel rest enough _
  simp only [tokens, List.length_cons, List.length_append, List.length_nil] at enough
  rw [tokens, List.cons_append, List.cons_append, List.append_assoc, List.singleton_append, operand,
    h.part (by omega) (by decide) rfl]

theorem callWith (f : String) (ha : a.Reads) (hb : b.Reads) : (Expr.callWith f a b).Reads := by
  apply of_operand
  intro fuel rest enough _
  simp only [tokens, List.length_cons, List.length_append, List.length_nil] at enough
  rw [tokens, List.cons_append, List.cons_append, List.append_assoc, List.cons_append,
    List.append_assoc, List.singleton_append, operand, ha.part (by omega) (by decide) rfl]
  have second :
      expression fuel 0 (b.tokens ++ .closeParen :: rest) = some (b, .closeParen :: rest) :=
    hb.part (by omega) (by decide) rfl
  simp only [second]

theorem existsIn (f element : String) (ha : a.Reads) (hb : b.Reads) :
    (Expr.existsIn f a element b).Reads := by
  apply of_operand
  intro fuel rest enough _
  simp only [tokens, List.length_cons, List.length_append, List.length_nil] at enough
  simp only [tokens, List.cons_append, List.append_assoc, List.nil_append]
  have condition :
      expression fuel 0 (b.tokens ++ .closeParen :: rest) = some (b, .closeParen :: rest) :=
    hb.part (by omega) (by decide) rfl
  rw [operand, ha.part (by omega) (by decide) rfl]
  simp only [condition]

theorem of_suffix (h : e.Reads) {whole : Expr} {s : Suffix} {t u : Token}
    (written : whole.tokens = e.tokens ++ [t, u])
    (power : whole.power = s.power) (tight : s.power ≤ e.power) (closed : t ≠ .openParen)
    (found : ∀ rest, suffix? (t :: u :: rest) = some (s, rest))
    (taken : ∀ {fuel floor : Nat} {rest : List Token}, floor < s.power →
      operation (fuel + 1) floor e (t :: u :: rest) = operation fuel floor whole rest) :
    whole.Reads := by
  constructor
  intro fuel floor rest enough below ends
  rw [power] at below
  simp only [written, List.length_append, List.length_cons, List.length_nil] at enough ⊢
  have follows : Ends e.power (t :: u :: rest) := by
    refine ⟨fun same => closed (Option.some.inj same), fun other => ?_⟩
    rw [found] at other
    cases other
    exact tight
  obtain ⟨left, spare, read⟩ :=
    h.goesOn fuel floor _ (by omega) (Nat.lt_of_lt_of_le below tight) follows
  -- The suffix takes one of the steps that are left.
  obtain ⟨k, rfl⟩ : ∃ k, left = k + 1 := ⟨left - 1, by omega⟩
  refine ⟨k, by omega, ?_⟩
  rw [List.append_assoc, List.cons_append, List.singleton_append, read, taken below]

theorem collate (c : String) (h : e.Reads) (tight : collatePower ≤ e.power) :
    (Expr.collate e c).Reads := by
  refine h.of_suffix (s := .collate c) rfl rfl tight (by decide) (fun _ => rfl) fun below => ?_
  rw [operation]
  exact if_neg (Nat.not_le.mpr below)

theorem isNull (h : e.Reads) (tight : isPower ≤ e.power) : (Expr.isNull e).Reads := by
  refine h.of_suffix (s := .isNull) rfl rfl tight (by decide) (fun _ => rfl) fun below => ?_
  rw [operation]
  exact if_neg (Nat.not_le.mpr below)

theorem binary {op : Operator} (hl : l.Reads) (hr : r.Reads) (tight : op.power ≤ l.power)
    (tighter : op.power < r.power) : (Expr.binary op l r).Reads := by
  constructor
  intro fuel floor rest enough below ends
  simp only [tokens, List.length_cons, List.length_append] at enough ⊢
  obtain ⟨left, spare, read⟩ := hl.goesOn fuel floor _ (by omega) (Nat.lt_of_lt_of_le below tight)
    (.operator tight (r.tokens ++ rest))
  obtain ⟨k, rfl⟩ : ∃ k, left = k + 1 := ⟨left - 1, by omega⟩
  -- An operator of the same power that follows belongs to the whole, so the operand on the right
  -- binds tighter.
  have right : expression k op.power (r.tokens ++ rest) = some (r, rest) :=
    hr.whole (by omega) tighter ends
  refine ⟨k, by omega, ?_⟩
  rw [List.append_assoc, List.cons_append, read, operation, suffix?_operator]
  simp only [Suffix.power, right, Option.bind_some]
  exact if_neg (Nat.not_le.mpr below)

end Reads

theorem reads {e : Expr} (fits : e.Fits) : e.Reads := by
  induction e with
  | name s => exact .name s
  | placeholder n => exact .placeholder n
  | number n => exact .number n
  | literal s => exact .literal s
  | group e ih => exact (ih fits).group
  | call f a ih => exact (ih fits).call f
  | callWith f a b iha ihb => exact (iha fits.1).callWith f (ihb fits.2)
  | collate e c ih => exact (ih fits.1).collate c fits.2
  | isNull e ih => exact (ih fits.1).isNull fits.2
  | binary op l r ihl ihr => exact (ihl fits.1).binary (ihr fits.2.1) fits.2.2.1 fits.2.2.2
  | existsIn f a element c iha ihc => exact (iha fits.1).existsIn f element (ihc fits.2)

end Expr
end MissionTracking.Sql
