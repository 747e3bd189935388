import MissionTracking.Proofs.Sql.Select

/-!
The expressions that the texts of conditions are. The placeholders of a text are numbered as its
values are listed, so that a condition is an expression over the next few of them. The text of a
window without bounds has tokens as every text, but they are no expression.
-/
namespace MissionTracking.Sql
open Text

def boundValues (ps : List Piece) : List Value :=
  ps.filterMap fun
    | .bind v => some v
    | .text _ => none

theorem boundValues_append (ps qs : List Piece) :
    boundValues (ps ++ qs) = boundValues ps ++ boundValues qs :=
  List.filterMap_append

def chars (next : Nat) (ps : List Piece) : List Char := (Statement.numbered next ps).toList

@[simp] theorem chars_nil (next : Nat) : chars next [] = [] := rfl

@[simp] theorem chars_text (next : Nat) (t : String) (ps : List Piece) :
    chars next (.text t :: ps) = t.toList ++ chars next ps := by
  rw [chars, Statement.numbered, String.toList_append, chars]

@[simp] theorem chars_bind (next : Nat) (v : Value) (ps : List Piece) :
    chars next (.bind v :: ps) = '$' :: (digits next ++ chars (next + 1) ps) := by
  have number : s!"${next}".toList = '$' :: digits next := by simp [toString, digits]
  rw [chars, Statement.numbered, String.toList_append, number, List.cons_append, chars]

theorem chars_append (next : Nat) (ps qs : List Piece) :
    chars next (ps ++ qs) = chars next ps ++ chars (next + (boundValues ps).length) qs := by
  induction ps generalizing next with
  | nil => rfl
  | cons p ps ih =>
    cases p with
    | text t => rw [List.cons_append, chars_text, chars_text, ih, List.append_assoc]; rfl
    | bind v =>
      have count :
          next + (boundValues (.bind v :: ps)).length = next + 1 + (boundValues ps).length := by
        rw [Nat.add_assoc, Nat.add_comm 1]
        rfl
      rw [List.cons_append, chars_bind, chars_bind, ih, count, List.cons_append, List.append_assoc]

theorem Breaks.of_text {t : String}
    (leads : t.toList.head?.any (fun c => !isWordChar c && !isSignChar c) = true)
    (rest : List Char) : Breaks (t.toList ++ rest) := by
  obtain ⟨c, first, breaks⟩ := (Option.any_eq_true _ _).mp leads
  simp only [Bool.and_eq_true, Bool.not_eq_true'] at breaks
  intro d member
  rw [List.head?_append, first, Option.some_or] at member
  cases member
  exact breaks

def Column.expr (c : Column) : Expr := .name c.text

def foldedExpr (c : Column) : Expr := .call "lower" (.collate c.expr "C")

def containsExpr (text : Expr) (next : Nat) : Expr :=
  .binary (.compare .greater) (.callWith "strpos" text (.placeholder next)) (.number 0)

def boundsExpr (c : Column) (next : Nat) : Option Instant → Option Instant → Expr
  | some _, some _ =>
    .binary .and (.binary (.compare .greaterEqual) c.expr (.placeholder next))
      (.binary (.compare .lessEqual) c.expr (.placeholder (next + 1)))
  | some _, none => .binary (.compare .greaterEqual) c.expr (.placeholder next)
  | none, _ => .binary (.compare .lessEqual) c.expr (.placeholder next)

def boundsRow (c : Column) (next : Nat) : Option Instant → Option Instant → List Token
  | none, none => []
  | min, max => (boundsExpr c next min max).tokens

namespace Condition

def expr (next : Nat) : Condition → Expr
  | .equals c _ => .binary (.compare .equal) c.expr (.placeholder next)
  | .equalsFolded c _ => .binary (.compare .equal) (foldedExpr c) (.placeholder next)
  | .containsFolded c _ => containsExpr (foldedExpr c) next
  | .someTagContains _ =>
    .existsIn "jsonb_array_elements" (.binary .member (.name "payload") (.literal "tasks")) "task"
      (containsExpr
        (.call "lower"
          (.collate (.group (.binary .memberText (.name "task") (.literal "tagId"))) "C")) next)
  | .within c true min max =>
    .group (.binary .or (.isNull c.expr) (.group (boundsExpr c next min max)))
  | .within c false min max => .group (boundsExpr c next min max)

/-- The tokens of the text, whether they are an expression or not. -/
def row (next : Nat) : Condition → List Token
  | .within c true min max =>
    .openParen :: ((Expr.isNull c.expr).tokens ++ .keyword .OR :: .openParen ::
      (boundsRow c next min max ++ [.closeParen, .closeParen]))
  | .within c false min max => .openParen :: (boundsRow c next min max ++ [.closeParen])
  | c => (c.expr next).tokens

/-- A window has a bound. Without one nothing would stand between its parentheses. -/
def Bounded : Condition → Prop
  | .within _ _ min max => min.isSome ∨ max.isSome
  | _ => True

def values (c : Condition) : List Value := boundValues c.pieces

theorem boundValues_pieces (c : Condition) : boundValues c.pieces = c.values := rfl

theorem fits (c : Condition) (next : Nat) : (c.expr next).Fits := by
  have bounds (column : Column) (min max : Option Instant) :
      (boundsExpr column next min max).Fits := by
    cases min <;> cases max <;>
        simp [boundsExpr, Column.expr, Expr.Fits, Expr.power, Operator.power, operandPower]
  cases c with
  | within column nullable min max =>
    cases nullable <;>
      simp [expr, bounds, Column.expr, Expr.Fits, Expr.power, Operator.power, operandPower, isPower]
  | _ =>
    simp [expr, containsExpr, foldedExpr, Column.expr, Expr.Fits, Expr.power, Operator.power,
      operandPower, collatePower]

theorem row_of_bounded {c : Condition} (bounded : c.Bounded) (next : Nat) :
    c.row next = (c.expr next).tokens := by
  have bounds (column : Column) {min max : Option Instant} (some_bound : min.isSome ∨ max.isSome) :
      boundsRow column next min max = (boundsExpr column next min max).tokens := by
    cases min with
    | some lo => rfl
    | none =>
      cases max with
      | some hi => rfl
      | none => simp at some_bound
  cases c with
  | within column nullable min max =>
    cases nullable <;>
      simp only [row, expr, bounds column bounded, Expr.tokens, Operator.token, List.cons_append,
        List.append_assoc, List.nil_append]
  | _ => rfl

theorem hollow_of_not_bounded {c : Condition} (unbounded : ¬ c.Bounded) (next : Nat) :
    [.openParen, .closeParen] <:+: c.row next := by
  cases c with
  | within column nullable min max =>
    obtain ⟨rfl, rfl⟩ : min = none ∧ max = none := by simpa [Bounded] using unbounded
    cases nullable with
    | false => exact List.infix_refl _
    | true => exact ⟨[.openParen, column.token, .keyword .IS, .keyword .NULL, .keyword .OR],
      [.closeParen], rfl⟩
  | _ => exact absurd trivial unbounded

end Condition

theorem scan_folded (c : Column) (rest : List Char) :
    scan .nothing ((folded c).toList ++ rest) = (foldedExpr c).tokens ++ scan .nothing rest := by
  have opening (cs : List Char) :
      scan .nothing ("lower(".toList ++ cs) = .name "lower" :: .openParen :: scan .nothing cs :=
    rfl
  have closing : scan .nothing (" COLLATE \"C\")".toList ++ rest) =
      .keyword .COLLATE :: .quoted "C" :: .closeParen :: scan .nothing rest := rfl
  simp only [folded, String.toList_append, List.append_assoc]
  rw [opening, c.scan_text (.of_text (t := " COLLATE \"C\")") rfl _), closing]
  rfl

theorem scan_bounds (c : Column) (next : Nat) (min max : Option Instant) {rest : List Char}
    (breaks : Breaks rest) :
    scan .nothing (chars next (Condition.bounds c min max) ++ rest) =
      boundsRow c next min max ++ scan .nothing rest := by
  have above (cs : List Char) :
      scan .nothing (" >= ".toList ++ cs) = .sign .greaterEqual :: scan .nothing cs := rfl
  have below (cs : List Char) :
      scan .nothing (" <= ".toList ++ cs) = .sign .lessEqual :: scan .nothing cs := rfl
  have both (cs : List Char) :
      scan .nothing (" AND ".toList ++ cs) = .keyword .AND :: scan .nothing cs := rfl
  -- One text for each pair of bounds, without a bound none at all.
  rcases min with _ | lo <;> rcases max with _ | hi
  · rfl
  · simp only [Condition.bounds, chars_text, chars_bind, chars_nil, String.toList_append,
      List.append_assoc, List.cons_append, List.nil_append]
    rw [c.scan_text (.of_text (t := " <= ") rfl _), below, scan_placeholder breaks]
    rfl
  · simp only [Condition.bounds, chars_text, chars_bind, chars_nil, String.toList_append,
      List.append_assoc, List.cons_append, List.nil_append]
    rw [c.scan_text (.of_text (t := " >= ") rfl _), above, scan_placeholder breaks]
    rfl
  · simp only [Condition.bounds, chars_text, chars_bind, chars_nil, String.toList_append,
      List.append_assoc, List.cons_append, List.nil_append]
    rw [c.scan_text (.of_text (t := " >= ") rfl _), above,
      scan_placeholder (.of_text (t := " AND ") rfl _), both,
      c.scan_text (.of_text (t := " <= ") rfl _), below, scan_placeholder breaks]
    rfl

def tagSearchTokens : List Token :=
  [.keyword .EXISTS, .openParen, .keyword .SELECT, .number 1, .keyword .FROM,
    .name "jsonb_array_elements", .openParen, .name "payload", .sign .member, .literal "tasks",
    .closeParen, .keyword .AS, .name "task", .keyword .WHERE, .name "strpos", .openParen,
    .name "lower", .openParen, .openParen, .name "task", .sign .memberText, .literal "tagId",
    .closeParen, .keyword .COLLATE, .quoted "C", .closeParen, .comma]

set_option maxRecDepth 2000 in
theorem scan_tagSearch (rest : List Char) :
    scan .nothing (("EXISTS (SELECT 1 FROM jsonb_array_elements(payload->'tasks') AS task " ++
      "WHERE strpos(lower((task->>'tagId') COLLATE \"C\"), ").toList ++ rest) =
      tagSearchTokens ++ scan .nothing rest :=
  rfl

theorem Condition.scan_pieces (c : Condition) (next : Nat) {rest : List Char}
    (breaks : Breaks rest) :
    scan .nothing (chars next c.pieces ++ rest) = c.row next ++ scan .nothing rest := by
  -- A fixed piece is read by evaluation up to its last character; columns and placeholders are
  -- words that end before the next piece.
  cases c with
  | equals column value =>
    have equals (cs : List Char) :
        scan .nothing (" = ".toList ++ cs) = .sign .equal :: scan .nothing cs := rfl
    simp only [pieces, chars_text, chars_bind, chars_nil, String.toList_append, List.append_assoc,
      List.cons_append, List.nil_append]
    rw [column.scan_text (.of_text (t := " = ") rfl _), equals, scan_placeholder breaks]
    rfl
  | equalsFolded column value =>
    have equals (cs : List Char) :
        scan .nothing (" = ".toList ++ cs) = .sign .equal :: scan .nothing cs := rfl
    simp only [pieces, chars_text, chars_bind, chars_nil, String.toList_append, List.append_assoc,
      List.cons_append, List.nil_append]
    rw [scan_folded, equals, scan_placeholder breaks]
    rfl
  | containsFolded column value =>
    have opening (cs : List Char) :
        scan .nothing ("strpos(".toList ++ cs) = .name "strpos" :: .openParen :: scan .nothing cs :=
      rfl
    have comma (cs : List Char) :
        scan .nothing (", ".toList ++ cs) = .comma :: scan .nothing cs := rfl
    have positive : scan .nothing (") > 0".toList ++ rest) =
        .closeParen :: .sign .greater :: .number 0 :: scan .nothing rest := by
      have zero : scan (.word ['0']) rest = .number 0 :: scan .nothing rest :=
        scan_word_end breaks ['0']
      rw [← zero]
      rfl
    simp only [pieces, chars_text, chars_bind, chars_nil, String.toList_append, List.append_assoc,
      List.cons_append, List.nil_append]
    rw [opening, scan_folded, comma, scan_placeholder (.of_text (t := ") > 0") rfl _), positive]
    rfl
  | someTagContains value =>
    have positive : scan .nothing (") > 0)".toList ++ rest) =
        .closeParen :: .sign .greater :: .number 0 :: .closeParen :: scan .nothing rest := rfl
    simp only [pieces, chars_text, chars_bind, chars_nil, List.append_assoc, List.cons_append,
      List.nil_append]
    rw [scan_tagSearch, scan_placeholder (.of_text (t := ") > 0)") rfl _), positive]
    rfl
  | within column nullable min max =>
    cases nullable with
    | false =>
      have opening (cs : List Char) :
          scan .nothing ("(".toList ++ cs) = .openParen :: scan .nothing cs := rfl
      have closing : scan .nothing (")".toList ++ rest) = .closeParen :: scan .nothing rest := rfl
      simp only [pieces, chars_text, chars_append, chars_nil, List.append_assoc, List.append_nil]
      rw [opening, scan_bounds column next min max (.of_text (t := ")") rfl _), closing]
      simp only [row, List.cons_append, List.append_assoc, List.nil_append]
    | true =>
      have opening (cs : List Char) :
          scan .nothing ("(".toList ++ cs) = .openParen :: scan .nothing cs := rfl
      have orBounds (cs : List Char) : scan .nothing (" IS NULL OR (".toList ++ cs) =
          .keyword .IS :: .keyword .NULL :: .keyword .OR :: .openParen :: scan .nothing cs := rfl
      have closing : scan .nothing ("))".toList ++ rest) =
          .closeParen :: .closeParen :: scan .nothing rest := rfl
      simp only [pieces, chars_text, chars_append, chars_nil, String.toList_append,
        List.append_assoc, List.append_nil]
      rw [opening, column.scan_text (.of_text (t := " IS NULL OR (") rfl _), orBounds,
        scan_bounds column next min max (.of_text (t := "))") rfl _), closing]
      simp only [row, Expr.tokens, Column.expr, Column.token, List.cons_append, List.append_assoc,
        List.nil_append]

end MissionTracking.Sql
