import MissionTracking.Proofs.Sql.Pushdown
import Mathlib.Data.List.Chain

/-!
Sentences: the form of the statements of this library, said of their tokens. Every condition is one
complete boolean expression, and no parentheses are empty. The texts of queries are sentences as
long as every time window has a bound; one without bounds leaves a pair of parentheses with nothing
between them.
-/
namespace MissionTracking

def Predicate.HasBound : Predicate → Prop
  | .startTime w | .endTime w | .desiredStartTime w => w.min.isSome ∨ w.max.isSome
  | _ => True

namespace Sql

namespace Expr

/-- A value, made of names, bound values and constants. -/
def IsOperand : Expr → Prop
  | .name _ | .placeholder _ | .number _ | .literal _ => True
  | .group e | .call _ e | .collate e _ => e.IsOperand
  | .callWith _ a b | .binary .member a b | .binary .memberText a b => a.IsOperand ∧ b.IsOperand
  | _ => False

/-- A complete boolean expression: every comparison has a value on both sides. -/
def IsCondition : Expr → Prop
  | .binary (.compare _) l r => l.IsOperand ∧ r.IsOperand
  | .isNull e => e.IsOperand
  | .binary .and l r | .binary .or l r => l.IsCondition ∧ r.IsCondition
  | .group e => e.IsCondition
  | .existsIn _ a _ c => a.IsOperand ∧ c.IsCondition
  | _ => False

/-- A complete boolean expression that stays whole between `AND`s. -/
structure IsConjunct (e : Expr) : Prop where
  condition : e.IsCondition
  fits : e.Fits
  tight : Operator.and.power < e.power

end Expr

def Term.IsColumn (t : Term) : Prop :=
  ∃ c : Column, t.key = c.expr ∨ ∃ collation, t.key = .collate c.expr collation

/-- `SELECT COUNT(*) FROM mission_runs`, and after `WHERE` so many conditions joined by `AND`. -/
def IsCountSentence (conditions : Nat) (ts : List Token) : Prop :=
  ∃ es : List Expr, es.length = conditions ∧ (∀ e ∈ es, e.IsConjunct) ∧
    ts = [.keyword .SELECT, .name "count", .openParen, .sign .star, .closeParen, .keyword .FROM,
      .name "mission_runs"] ++
      whereRow (es.map Expr.tokens)

/-- `SELECT payload FROM mission_runs`, after `WHERE` so many conditions joined by `AND`, after
`ORDER BY` so many terms of columns and that of the id, and at last the places of a limit and an
offset. -/
def IsPageSentence (conditions keys : Nat) (ts : List Token) : Prop :=
  ∃ (es : List Expr) (terms : List Term) (limit offset : Nat), es.length = conditions ∧
  (∀ e ∈ es, e.IsConjunct) ∧
    terms.length = keys ∧ (∀ t ∈ terms, t.IsColumn) ∧
    ts = [.keyword .SELECT, .name "payload", .keyword .FROM, .name "mission_runs"] ++
    (whereRow (es.map Expr.tokens) ++
      (.keyword .ORDER :: .keyword .BY :: ((terms.flatMap fun t => t.tokens ++ [.comma]) ++
        [.name "id", .keyword .COLLATE, .quoted "C", .keyword .ASC, .keyword .LIMIT,
        .placeholder limit,
          .keyword .OFFSET, .placeholder offset])))

/-- No parentheses stand around nothing, nor can they when the row stands between others. -/
structure Packed (ts : List Token) : Prop where
  inside : ts.IsChain fun t u => ¬ (t = .openParen ∧ u = .closeParen)
  first : ts.head? ≠ some .closeParen
  last : ts.getLast? ≠ some .openParen

namespace Packed
variable {ts us : List Token} {t : Token}

theorem nil : Packed [] := ⟨.nil, nofun, nofun⟩

theorem single (opens : t ≠ .openParen) (closes : t ≠ .closeParen) : Packed [t] := by
  refine ⟨.singleton t, ?_, ?_⟩
  · simpa using closes
  · simpa using opens

theorem append (front : Packed ts) (back : Packed us) : Packed (ts ++ us) where
  inside := by
    refine List.isChain_append.mpr ⟨front.inside, back.inside, ?_⟩
    rintro _ last u _ ⟨rfl, _⟩
    exact front.last last
  first := by
    cases ts with
    | nil => exact back.first
    | cons t ts => exact front.first
  last := by
    cases us using List.reverseRecOn with
    | nil => simpa using front.last
    | append_singleton us u => simpa [List.getLast?_append] using back.last

theorem cons (opens : t ≠ .openParen) (closes : t ≠ .closeParen) (rest : Packed ts) :
    Packed (t :: ts) :=
  (single opens closes).append rest

theorem of_plain (plain : ∀ t ∈ ts, t ≠ .openParen ∧ t ≠ .closeParen) : Packed ts := by
  induction ts with
  | nil => exact nil
  | cons t ts ih =>
    obtain ⟨⟨opens, closes⟩, others⟩ := List.forall_mem_cons.mp plain
    exact (ih others).cons opens closes

theorem parens (filled : ts ≠ []) (held : Packed ts) :
    Packed (.openParen :: (ts ++ [.closeParen])) where
  inside := by
    refine List.isChain_cons.mpr ⟨?_, List.isChain_append.mpr ⟨held.inside, .singleton _, ?_⟩⟩
    · rintro u first ⟨_, rfl⟩
      rw [List.head?_append_of_ne_nil _ filled] at first
      exact held.first first
    · rintro t last _ _ ⟨rfl, _⟩
      exact held.last last
  first := by simp
  last := by simp [List.getLast?_cons]

theorem flatMap {f : α → List Token} {as : List α} (each : ∀ a ∈ as, Packed (f a)) :
    Packed (as.flatMap f) := by
  induction as with
  | nil => exact nil
  | cons a as ih =>
    obtain ⟨first, others⟩ := List.forall_mem_cons.mp each
    exact first.append (ih others)

theorem not_hollow (packed : Packed ts) : ¬ [.openParen, .closeParen] <:+: ts := by
  intro hollow
  have pair := packed.inside.infix hollow
  simp at pair

end Packed

theorem Operator.packed_token (op : Operator) : Packed [op.token] := by
  cases op with
  | compare c => cases c <;> exact .single (by decide) (by decide)
  | _ => exact .single (by decide) (by decide)

theorem Expr.tokens_ne_nil (e : Expr) : e.tokens ≠ [] := List.ne_nil_of_length_pos e.tokens_pos

theorem Expr.packed (e : Expr) : Packed e.tokens := by
  induction e with
  | name | placeholder | number | literal => exact .single (by simp) (by simp)
  | group e ih => exact ih.parens e.tokens_ne_nil
  | call f a ih => exact (ih.parens a.tokens_ne_nil).cons (by simp) (by simp)
  | callWith f a b iha ihb =>
    have arguments : Packed (a.tokens ++ .comma :: b.tokens) :=
      iha.append (ihb.cons (by simp) (by simp))
    have whole := arguments.parens (by simp)
    rw [List.append_assoc, List.cons_append] at whole
    exact whole.cons (by simp) (by simp)
  | collate e c ih => exact ih.append (.of_plain (by simp))
  | isNull e ih => exact ih.append (.of_plain (by simp))
  | binary op l r ihl ihr => exact ihl.append (op.packed_token.append ihr)
  | existsIn f a element c iha ihc =>
    have source : Packed (.name f :: .openParen :: (a.tokens ++ [.closeParen])) :=
      (iha.parens a.tokens_ne_nil).cons (by simp) (by simp)
    have before : Packed [.keyword .SELECT, .number 1, .keyword .FROM] := .of_plain (by simp)
    have between : Packed [.keyword .AS, .name element, .keyword .WHERE] := .of_plain (by simp)
    have query := before.append (source.append (between.append ihc))
    have whole := (query.parens (by simp)).cons (t := .keyword .EXISTS) (by simp) (by simp)
    simpa [tokens] using whole

theorem Term.packed (t : Term) : Packed t.tokens := by
  refine t.key.packed.append (Packed.cons (by simp) (by simp) (.of_plain ?_))
  split <;> simp

theorem packed_whereRow (es : List Expr) : Packed (whereRow (es.map Expr.tokens)) := by
  cases es with
  | nil => exact .nil
  | cons e es =>
    rw [List.map_cons, whereRow, List.flatMap_map]
    refine (e.packed.append (.flatMap fun e _ => ?_)).cons (by simp) (by simp)
    exact e.packed.cons (by simp) (by simp)

variable {conditions keys : Nat} {ts : List Token}

theorem IsCountSentence.packed (sentence : IsCountSentence conditions ts) : Packed ts := by
  obtain ⟨es, _, _, rfl⟩ := sentence
  refine Packed.append ?_ (packed_whereRow es)
  constructor <;> simp

theorem IsPageSentence.packed (sentence : IsPageSentence conditions keys ts) : Packed ts := by
  obtain ⟨es, terms, limit, offset, _, _, _, _, rfl⟩ := sentence
  have order : Packed (terms.flatMap fun t => t.tokens ++ [.comma]) :=
    .flatMap fun t _ => t.packed.append (.of_plain (by simp))
  refine Packed.append (.of_plain (by simp)) ((packed_whereRow es).append ?_)
  exact ((order.append (.of_plain (by simp))).cons (by simp) (by simp)).cons (by simp) (by simp)

theorem boundsExpr_isCondition (c : Column) (next : Nat) (min max : Option Instant) :
    (boundsExpr c next min max).IsCondition := by
  cases min <;> cases max <;> simp [boundsExpr, Column.expr, Expr.IsCondition, Expr.IsOperand]

theorem Condition.expr_isCondition (c : Condition) (next : Nat) : (c.expr next).IsCondition := by
  cases c with
  | within column nullable min max =>
    have bounds := boundsExpr_isCondition column next min max
    cases nullable with
    | false => exact bounds
    | true => exact ⟨trivial, bounds⟩
  | _ => simp [expr, containsExpr, foldedExpr, Column.expr, Expr.IsCondition, Expr.IsOperand]

theorem conditionExprs_length (next : Nat) (cs : List Condition) :
    (conditionExprs next cs).length = cs.length := by
  induction cs generalizing next with
  | nil => rfl
  | cons c cs ih => exact congrArg (· + 1) (ih _)

theorem isConjunct_of_mem_conditionExprs {next : Nat} {cs : List Condition} {e : Expr}
    (member : e ∈ conditionExprs next cs) : e.IsConjunct := by
  obtain ⟨fits, tight⟩ := fits_of_mem_conditionExprs member
  refine ⟨?_, fits, tight⟩
  induction cs generalizing next with
  | nil => cases member
  | cons c cs ih =>
    rcases List.mem_cons.mp member with rfl | later
    · exact c.expr_isCondition next
    · exact ih later

theorem exists_row_mem {cs : List Condition} {c : Condition} (member : c ∈ cs) (next : Nat) :
    ∃ number, c.row number ∈ conditionRows next cs := by
  induction cs generalizing next with
  | nil => cases member
  | cons d cs ih =>
    rcases List.mem_cons.mp member with rfl | later
    · exact ⟨next, List.mem_cons_self⟩
    · obtain ⟨number, listed⟩ := ih later (next + d.values.length)
      exact ⟨number, List.mem_cons_of_mem _ listed⟩

theorem infix_whereRow {rows : List (List Token)} {row : List Token} (member : row ∈ rows) :
    row <:+: whereRow rows := by
  cases rows with
  | nil => cases member
  | cons r rs =>
    rcases List.mem_cons.mp member with rfl | later
    · exact ⟨[.keyword .WHERE], _, rfl⟩
    · have joined : row <:+: Token.keyword .AND :: row := (List.suffix_cons _ _).isInfix
      have listed : Token.keyword .AND :: row <:+: rs.flatMap fun r => .keyword .AND :: r :=
        List.infix_of_mem_flatten (List.mem_map_of_mem later)
      exact (joined.trans listed).trans
        ((List.suffix_append r _).trans (List.suffix_cons _ _)).isInfix

theorem Condition.bounded_ofPredicate_iff {p : Predicate} :
    (Condition.ofPredicate p).Bounded ↔ p.HasBound := by
  cases p <;> rfl

namespace Statement
variable {s : Statement} {f : RunFilter}

theorem hollow_text {c : Condition} (member : c ∈ s.conditions) (unbounded : ¬ c.Bounded) :
    [.openParen, .closeParen] <:+: tokens s.text := by
  obtain ⟨number, listed⟩ := exists_row_mem member 1
  have clause := (c.hollow_of_not_bounded unbounded number).trans (infix_whereRow listed)
  have parts : s.row =
      .keyword .SELECT :: (s.select.target.tokens ++ [.keyword .FROM, .name s.select.table]) ++
      whereRow (conditionRows 1 s.conditions) ++ (orderTokens s.select.order ++
        (clauseTokens .LIMIT s.select.limit ++ clauseTokens .OFFSET s.select.offset)) := by
    simp [row]
  rw [tokens_text_eq_row, parts]
  exact clause.trans (List.infix_append _ _ _)

theorem bounded_conditions (conditions : s.conditions = f.predicates.map Condition.ofPredicate)
    (bounded : ∀ p ∈ f.predicates, p.HasBound) : ∀ c ∈ s.conditions, c.Bounded := by
  rw [conditions]
  intro c member
  obtain ⟨p, listed, rfl⟩ := List.mem_map.mp member
  exact Condition.bounded_ofPredicate_iff.mpr (bounded p listed)

theorem hasBound_of_packed (conditions : s.conditions = f.predicates.map Condition.ofPredicate)
    (packed : Packed (tokens s.text)) : ∀ p ∈ f.predicates, p.HasBound := by
  intro p member
  by_contra unbounded
  have listed : Condition.ofPredicate p ∈ s.conditions := conditions ▸ List.mem_map_of_mem member
  exact packed.not_hollow (hollow_text listed (mt Condition.bounded_ofPredicate_iff.mp unbounded))

theorem count_isSentence (bounded : ∀ p ∈ f.predicates, p.HasBound) :
    IsCountSentence f.predicates.length (tokens (count f).text) := by
  refine ⟨conditionExprs 1 (count f).conditions, ?_, fun e => isConjunct_of_mem_conditionExprs, ?_⟩
  · rw [conditionExprs_length]
    exact List.length_map _
  · rw [tokens_text_eq_row, row, conditionRows_of_bounded (bounded_conditions rfl bounded)]
    simp [count, select, Target.tokens, orderTokens, clauseTokens]

theorem page_isSentence (sort : SortSpec) (w : PageWindow)
    (bounded : ∀ p ∈ f.predicates, p.HasBound) :
    IsPageSentence f.predicates.length sort.keys.length (tokens (page ⟨f, sort⟩ w).text) := by
  refine ⟨conditionExprs 1 (page ⟨f, sort⟩ w).conditions,
    (Paging.ofWindow sort w).order.map OrderTerm.term, (page ⟨f, sort⟩ w).afterConditions,
    (page ⟨f, sort⟩ w).afterConditions + 1, ?_,
    fun e => isConjunct_of_mem_conditionExprs, ?_, ?_, ?_⟩
  · rw [conditionExprs_length]
    exact List.length_map _
  · simp [Paging.ofWindow]
  · intro t member
    obtain ⟨key, _, rfl⟩ := List.mem_map.mp member
    refine ⟨key.column, ?_⟩
    unfold OrderTerm.term
    dsimp only
    split
    · exact .inr ⟨"C", rfl⟩
    · exact .inl rfl
  · rw [tokens_text_eq_row, row, conditionRows_of_bounded (bounded_conditions rfl bounded)]
    simp [page, select, orderTokens_concat, Target.tokens, clauseTokens, idTerm, Term.tokens,
      Column.expr, Column.text, Expr.tokens]

end Statement

/-- The texts of a query are sentences exactly when all its time windows have a bound. -/
theorem texts_are_sentences_iff (f : RunFilter) (sort : SortSpec) (w : PageWindow) :
    (IsCountSentence f.predicates.length (tokens (Statement.count f).text) ↔
      ∀ p ∈ f.predicates, p.HasBound) ∧
    (IsPageSentence f.predicates.length sort.keys.length
        (tokens (Statement.page ⟨f, sort⟩ w).text) ↔
      ∀ p ∈ f.predicates, p.HasBound) :=
  ⟨⟨fun sentence => Statement.hasBound_of_packed rfl sentence.packed, Statement.count_isSentence⟩,
    ⟨fun sentence => Statement.hasBound_of_packed rfl sentence.packed,
    Statement.page_isSentence sort w⟩⟩

def openWindow : RunFilter := ⟨[.desiredStartTime ⟨none, none⟩]⟩

theorem texts_are_sentences_open : ¬ ∀ f sort w,
    IsCountSentence f.predicates.length (tokens (Statement.count f).text) ∧
    IsPageSentence f.predicates.length sort.keys.length
      (tokens (Statement.page ⟨f, sort⟩ w).text) := by
  intro always
  have bounds := Statement.hasBound_of_packed rfl (always openWindow .byName .unbounded).1.packed
  rcases bounds (.desiredStartTime ⟨none, none⟩) List.mem_cons_self with lower | upper
  · cases lower
  · cases upper

/-- Parameters never make a window without bounds, so that the texts of the listings they ask for
are sentences. -/
theorem texts_of_parameters {p : QueryParameters} {f : RunFilter}
    (made : RunFilter.ofParameters p = .ok f) (sort : SortSpec) (w : PageWindow) :
    IsCountSentence f.predicates.length (tokens (Statement.count f).text) ∧
    IsPageSentence f.predicates.length sort.keys.length
      (tokens (Statement.page ⟨f, sort⟩ w).text) := by
  have bounded : ∀ q ∈ f.predicates, q.HasBound := fun q member =>
    Condition.bounded_ofPredicate_iff.mp
      (Condition.bounded_ofPredicate (RunFilter.bounded_of_ofParameters made q member))
  exact ⟨Statement.count_isSentence bounded, Statement.page_isSentence sort w bounded⟩

end Sql
end MissionTracking
