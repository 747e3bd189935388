import MissionTracking.Proofs.Sql.Condition

/-!
The statements that the texts of this library are: the whole text of a statement has one row of
tokens, whatever its conditions, its order and its page, and is read as one statement as long as
every window among the conditions has a bound.
-/
namespace MissionTracking.Sql

def conditionExprs (next : Nat) : List Condition → List Expr
  | [] => []
  | c :: cs => c.expr next :: conditionExprs (next + c.values.length) cs

def conditionRows (next : Nat) : List Condition → List (List Token)
  | [] => []
  | c :: cs => c.row next :: conditionRows (next + c.values.length) cs

def whereRow : List (List Token) → List Token
  | [] => []
  | r :: rs => .keyword .WHERE :: (r ++ rs.flatMap fun r => .keyword .AND :: r)

def conjunction : List Expr → Option Expr
  | [] => none
  | e :: es => some (es.foldl (.binary .and) e)

def OrderTerm.term (t : OrderTerm) : Term where
  key := if t.column.isText then .collate t.column.expr "C" else t.column.expr
  ascending := t.ascending
  nullsFirst := some t.ascending

def idTerm : Term := ⟨.collate Column.id.expr "C", true, none⟩

namespace Statement

def afterConditions (s : Statement) : Nat := 1 + (boundValues (whereClause s.conditions)).length

def select (s : Statement) : Select where
  target :=
    match s.projection with
    | .payload => .column "payload"
    | .count => .aggregate "count"
  table := "mission_runs"
  condition := conjunction (conditionExprs 1 s.conditions)
  order :=
    match s.paging with
    | none => []
    | some p => p.order.map OrderTerm.term ++ [idTerm]
  limit := s.paging.map fun _ => .placeholder s.afterConditions
  offset := s.paging.map fun _ => .placeholder (s.afterConditions + 1)

def row (s : Statement) : List Token :=
  .keyword .SELECT :: (s.select.target.tokens ++ .keyword .FROM :: .name s.select.table ::
    (whereRow (conditionRows 1 s.conditions) ++ (orderTokens s.select.order ++
      (clauseTokens .LIMIT s.select.limit ++ clauseTokens .OFFSET s.select.offset))))

end Statement

theorem tokens_foldl_and (e : Expr) (es : List Expr) :
    (es.foldl (.binary .and) e).tokens =
    e.tokens ++ es.flatMap fun e => .keyword .AND :: e.tokens := by
  induction es generalizing e with
  | nil => rw [List.foldl_nil, List.flatMap_nil, List.append_nil]
  | cons f es ih =>
    rw [List.foldl_cons, ih, List.flatMap_cons, ← List.append_assoc]
    rfl

theorem whereRow_tokens (es : List Expr) :
    whereRow (es.map Expr.tokens) = clauseTokens .WHERE (conjunction es) := by
  cases es with
  | nil => rfl
  | cons e es =>
    rw [List.map_cons, whereRow, List.flatMap_map, conjunction, clauseTokens, tokens_foldl_and]

theorem conditionRows_of_bounded {cs : List Condition} (bounded : ∀ c ∈ cs, c.Bounded)
    (next : Nat) : conditionRows next cs = (conditionExprs next cs).map Expr.tokens := by
  induction cs generalizing next with
  | nil => rfl
  | cons c cs ih =>
    obtain ⟨first, others⟩ := List.forall_mem_cons.mp bounded
    rw [conditionRows, conditionExprs, List.map_cons, c.row_of_bounded first, ih others]

theorem fits_foldl_and {e : Expr} {es : List Expr} (first : e.Fits ∧ Operator.and.power < e.power)
    (others : ∀ f ∈ es, f.Fits ∧ Operator.and.power < f.power) :
    (es.foldl (.binary .and) e).Fits := by
  -- After the first step what stands on the left is a conjunction itself, which binds as tight and
  -- no tighter.
  have chain : ∀ {e : Expr} {es : List Expr}, e.Fits → Operator.and.power ≤ e.power →
      (∀ f ∈ es, f.Fits ∧ Operator.and.power < f.power) → (es.foldl (.binary .and) e).Fits := by
    intro e es fits tight others
    induction es generalizing e with
    | nil => exact fits
    | cons f es ih =>
      have ⟨next, rest⟩ := List.forall_mem_cons.mp others
      exact ih (e := .binary .and e f) ⟨fits, next.1, tight, next.2⟩ (Nat.le_refl _) rest
  exact chain first.1 (Nat.le_of_lt first.2) others

theorem fits_of_mem_conditionExprs {next : Nat} {cs : List Condition} {e : Expr}
    (member : e ∈ conditionExprs next cs) : e.Fits ∧ Operator.and.power < e.power := by
  induction cs generalizing next with
  | nil => cases member
  | cons c cs ih =>
    rcases List.mem_cons.mp member with rfl | later
    · refine ⟨c.fits next, ?_⟩
      cases c with
      | within column nullable min max => cases nullable <;> exact (by decide : 2 < 7)
      | someTagContains value => exact (by decide : 2 < 7)
      | _ => exact (by decide : 2 < 4)
    · exact ih later

theorem scan_conditions (cs : List Condition) (next : Nat) {rest : List Char}
    (breaks : Breaks rest) :
    scan .nothing (chars next (cs.flatMap fun c => .text " AND " :: c.pieces) ++ rest) =
      ((conditionRows next cs).flatMap fun r => .keyword .AND :: r) ++ scan .nothing rest ∧
    Breaks (chars next (cs.flatMap fun c => .text " AND " :: c.pieces) ++ rest) := by
  have both (cs : List Char) :
      scan .nothing (" AND ".toList ++ cs) = .keyword .AND :: scan .nothing cs := rfl
  -- Induction on the conditions: the values of each move the numbers of the later ones on.
  induction cs generalizing next with
  | nil => exact ⟨rfl, breaks⟩
  | cons c cs ih =>
    obtain ⟨later, begins⟩ := ih (next + c.values.length)
    simp only [List.flatMap_cons, List.cons_append, chars_text, chars_append, List.append_assoc]
    refine ⟨?_, .of_text (t := " AND ") rfl _⟩
    rw [both, Condition.boundValues_pieces, c.scan_pieces next begins, later]
    simp only [conditionRows, List.flatMap_cons, List.cons_append, List.append_assoc]

theorem scan_whereClause (cs : List Condition) (next : Nat) {rest : List Char}
    (breaks : Breaks rest) :
    scan .nothing (chars next (Statement.whereClause cs) ++ rest) =
      whereRow (conditionRows next cs) ++ scan .nothing rest ∧
    Breaks (chars next (Statement.whereClause cs) ++ rest) := by
  have opening (cs : List Char) :
      scan .nothing (" WHERE ".toList ++ cs) = .keyword .WHERE :: scan .nothing cs := rfl
  cases cs with
  | nil => exact ⟨rfl, breaks⟩
  | cons c cs =>
    obtain ⟨later, begins⟩ := scan_conditions cs (next + c.values.length) breaks
    simp only [Statement.whereClause, chars_text, chars_append, List.append_assoc]
    refine ⟨?_, .of_text (t := " WHERE ") rfl _⟩
    rw [opening, Condition.boundValues_pieces, c.scan_pieces next begins, later]
    simp only [conditionRows, whereRow, List.cons_append, List.append_assoc]

theorem scan_direction (ascending : Bool) (rest : List Char) :
    scan .nothing ((if ascending then " ASC NULLS FIRST" else " DESC NULLS LAST").toList ++
      (", ".toList ++ rest)) = (if ascending then [.keyword .ASC, .keyword .NULLS, .keyword .FIRST]
        else [.keyword .DESC, .keyword .NULLS, .keyword .LAST]) ++ .comma :: scan .nothing rest ∧
    Breaks ((if ascending then " ASC NULLS FIRST" else " DESC NULLS LAST").toList ++
      (", ".toList ++ rest)) := by
  cases ascending with
  | false => exact ⟨rfl, .of_text (t := " DESC NULLS LAST") rfl _⟩
  | true => exact ⟨rfl, .of_text (t := " ASC NULLS FIRST") rfl _⟩

theorem OrderTerm.term_tokens (t : OrderTerm) :
    t.term.tokens =
    t.term.key.tokens ++ (if t.ascending then [.keyword .ASC, .keyword .NULLS, .keyword .FIRST]
      else [.keyword .DESC, .keyword .NULLS, .keyword .LAST]) := by
  obtain ⟨column, ascending⟩ := t
  cases ascending <;> rfl

theorem scan_orderTerm (t : OrderTerm) (rest : List Char) :
    scan .nothing ((t.text ++ ", ").toList ++ rest) =
    t.term.tokens ++ .comma :: scan .nothing rest := by
  have collation (cs : List Char) : scan .nothing (" COLLATE \"C\"".toList ++ cs) =
      .keyword .COLLATE :: .quoted "C" :: scan .nothing cs := rfl
  obtain ⟨direction, begins⟩ := scan_direction t.ascending rest
  rw [t.term_tokens]
  simp only [OrderTerm.text, OrderTerm.term, String.toList_append, List.append_assoc]
  cases t.column.isText with
  | false =>
    simp only [Bool.false_eq_true, if_false, String.toList_empty, List.nil_append]
    rw [t.column.scan_text begins, direction]
    rfl
  | true =>
    simp only [if_true]
    rw [t.column.scan_text (.of_text (t := " COLLATE \"C\"") rfl _), collation, direction]
    rfl

theorem scan_orderTerms (ts : List OrderTerm) (next : Nat) (rest : List Char) :
    scan .nothing (chars next (ts.map fun t => .text (t.text ++ ", ")) ++ rest) =
      (ts.flatMap fun t => t.term.tokens ++ [.comma]) ++ scan .nothing rest := by
  induction ts with
  | nil => rfl
  | cons t ts ih =>
    simp only [List.map_cons, chars_text, List.append_assoc, List.flatMap_cons]
    rw [scan_orderTerm, ih]
    simp only [List.cons_append, List.nil_append]

theorem orderTokens_concat (ts : List Term) (last : Term) :
    orderTokens (ts ++ [last]) =
      .keyword .ORDER :: .keyword .BY ::
      ((ts.flatMap fun t => t.tokens ++ [.comma]) ++ last.tokens) := by
  -- In the text a comma ends each term before the last, in the grammar one begins each term after
  -- the first.
  have commas : ∀ ts : List Term, (ts ++ [last]).flatMap (fun t => .comma :: t.tokens) =
      .comma :: ((ts.flatMap fun t => t.tokens ++ [.comma]) ++ last.tokens) := by
    intro ts
    induction ts with
    | nil => simp
    | cons t ts ih =>
      simp only [List.cons_append, List.flatMap_cons, ih, List.append_assoc, List.nil_append]
  cases ts with
  | nil => simp [orderTokens]
  | cons t ts =>
    simp only [List.cons_append, orderTokens, commas, List.flatMap_cons, List.append_assoc,
      List.nil_append]

theorem boundValues_orderTerms (ts : List OrderTerm) :
    boundValues (ts.map fun t => .text (t.text ++ ", ")) = [] := by
  induction ts with
  | nil => rfl
  | cons t ts ih => exact ih

theorem boundValues_pagingClause (p : Paging) :
    boundValues (Statement.pagingClause p) = [.number p.limit, .number p.offset] := by
  have order := boundValues_orderTerms p.order
  rw [Statement.pagingClause, boundValues_append]
  exact congrArg (· ++ _) order

theorem scan_pagingClause (p : Paging) (next : Nat) :
    scan .nothing (chars next (Statement.pagingClause p)) =
      orderTokens (p.order.map OrderTerm.term ++ [idTerm]) ++
        (clauseTokens .LIMIT (some (.placeholder next)) ++
          clauseTokens .OFFSET (some (.placeholder (next + 1)))) := by
  have order (cs : List Char) : scan .nothing (" ORDER BY ".toList ++ cs) =
      .keyword .ORDER :: .keyword .BY :: scan .nothing cs :=
    rfl
  have closing (cs : List Char) :
      scan .nothing ("id COLLATE \"C\" ASC".toList ++ (" LIMIT ".toList ++ cs)) =
      idTerm.tokens ++ .keyword .LIMIT :: scan .nothing cs := rfl
  have offset (cs : List Char) :
      scan .nothing (" OFFSET ".toList ++ cs) = .keyword .OFFSET :: scan .nothing cs := rfl
  simp only [Statement.pagingClause, List.cons_append, chars_text, chars_append,
    chars_bind, chars_nil, boundValues_orderTerms, List.length_nil, Nat.add_zero]
  rw [order, scan_orderTerms, closing, scan_placeholder (.of_text (t := " OFFSET ") rfl _), offset,
    scan_placeholder (fun _ member => by cases member), orderTokens_concat]
  simp [clauseTokens, Expr.tokens, List.flatMap_map, scan, Pending.close]

namespace Statement

def closingPieces (s : Statement) : List Piece :=
  match s.paging with
  | some p => pagingClause p
  | none => []

theorem scan_closingPieces (s : Statement) :
    scan .nothing (chars s.afterConditions s.closingPieces) = orderTokens s.select.order ++
      (clauseTokens .LIMIT s.select.limit ++ clauseTokens .OFFSET s.select.offset) ∧
    Breaks (chars s.afterConditions s.closingPieces) := by
  unfold closingPieces select
  cases s.paging with
  | none => exact ⟨rfl, fun _ member => by cases member⟩
  | some p =>
    have begins : Breaks (chars s.afterConditions (pagingClause p)) := by
      rw [pagingClause, List.cons_append, chars_text]
      exact .of_text (t := " ORDER BY ") rfl _
    exact ⟨scan_pagingClause p s.afterConditions, begins⟩

theorem scan_head (p : Projection) {rest : List Char} (breaks : Breaks rest) :
    scan .nothing ((head p).toList ++ rest) = .keyword .SELECT :: (Target.tokens
      (match p with
        | .payload => .column "payload"
        | .count =>
          .aggregate "count") ++ .keyword .FROM :: .name "mission_runs" :: scan .nothing rest) := by
  have table : scan (.word "mission_runs".toList.reverse) rest =
      .name "mission_runs" :: scan .nothing rest :=
    scan_word_end breaks _
  rw [← table]
  cases p <;> rfl

theorem tokens_text_eq_row (s : Statement) : tokens s.text = s.row := by
  obtain ⟨closing, breaks⟩ := s.scan_closingPieces
  obtain ⟨conditions, begins⟩ := scan_whereClause s.conditions 1 breaks
  have whole : tokens s.text =
      scan .nothing
        (chars 1 (.text (head s.projection) :: (whereClause s.conditions ++ s.closingPieces))) :=
    rfl
  have after : 1 + (boundValues (whereClause s.conditions)).length = s.afterConditions := rfl
  rw [whole, chars_text, chars_append, after, scan_head s.projection begins, conditions, closing]
  rfl

theorem tokens_text {s : Statement} (bounded : ∀ c ∈ s.conditions, c.Bounded) :
    tokens s.text = s.select.tokens := by
  rw [tokens_text_eq_row, row, conditionRows_of_bounded bounded, whereRow_tokens]
  rfl

theorem select_fits (s : Statement) : s.select.Fits where
  condition e member := by
    cases exprs : conditionExprs 1 s.conditions with
    | nil =>
      rw [select, exprs] at member
      cases member
    | cons f fs =>
      have each : ∀ g ∈ f :: fs, g.Fits ∧ Operator.and.power < g.power := by
        intro g listed
        rw [← exprs] at listed
        exact fits_of_mem_conditionExprs listed
      have ⟨first, others⟩ := List.forall_mem_cons.mp each
      rw [select, exprs] at member
      cases member
      exact fits_foldl_and first others
  order t member := by
    have collated (column : Column) : (Expr.collate column.expr "C").Fits :=
      ⟨trivial, Nat.le_succ 6⟩
    cases paging : s.paging with
    | none =>
      rw [select, paging] at member
      cases member
    | some p =>
      rw [select, paging] at member
      rcases List.mem_append.mp member with own | closing
      · obtain ⟨t', _, rfl⟩ := List.mem_map.mp own
        unfold OrderTerm.term
        dsimp only
        split
        · exact collated _
        · trivial
      · rw [List.mem_singleton.mp closing]
        exact collated _
  limit e member := by
    obtain ⟨p, _, rfl⟩ := Option.map_eq_some_iff.mp member
    trivial
  offset e member := by
    obtain ⟨p, _, rfl⟩ := Option.map_eq_some_iff.mp member
    trivial

theorem ofText?_text {s : Statement} (bounded : ∀ c ∈ s.conditions, c.Bounded) :
    Select.ofText? s.text = some s.select := by
  rw [Select.ofText?, tokens_text bounded]
  exact Select.ofTokens?_tokens s.select_fits

end Statement
end MissionTracking.Sql
