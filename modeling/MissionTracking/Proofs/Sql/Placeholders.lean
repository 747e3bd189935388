import MissionTracking.Proofs.Sql.Filtering
import MissionTracking.Proofs.Text.Digits

/-!
What the text of a statement gives away. Two filters that differ in their values only, and two
windows of a page, leave the same text. In a text the dollar sign begins a placeholder and nothing
else, and the placeholders are numbered from left to right as the values are listed.
-/
namespace MissionTracking
open Text

/-- Predicates of one kind, whatever their values are. Windows have the same bounds set. -/
inductive Predicate.Alike : Predicate → Predicate → Prop where
  | assetCode (code other : String) : Alike (.assetCode code) (.assetCode other)
  | status (status other : MissionStatus) : Alike (.status status) (.status other)
  | robotId (id other : String) : Alike (.robotId id) (.robotId other)
  | robotModel (model other : RobotModel) : Alike (.robotModel model) (.robotModel other)
  | area (name other : String) : Alike (.area name) (.area other)
  | nameContains (needle other : String) : Alike (.nameContains needle) (.nameContains other)
  | robotNameContains
      (needle other : String) : Alike (.robotNameContains needle) (.robotNameContains other)
  | tagContains (needle other : String) : Alike (.tagContains needle) (.tagContains other)
  | startTime {w v : TimeWindow} (min : w.min.isSome = v.min.isSome)
      (max : w.max.isSome = v.max.isSome) :
      Alike (.startTime w) (.startTime v)
  | endTime {w v : TimeWindow} (min : w.min.isSome = v.min.isSome)
      (max : w.max.isSome = v.max.isSome) :
      Alike (.endTime w) (.endTime v)
  | desiredStartTime {w v : TimeWindow} (min : w.min.isSome = v.min.isSome)
      (max : w.max.isSome = v.max.isSome) :
      Alike (.desiredStartTime w) (.desiredStartTime v)

def Predicate.payload : Predicate → List Sql.Value
  | .assetCode code => [.text code]
  | .status s => [.text s.text]
  | .robotId id => [.text id]
  | .robotModel model => [.text model.name]
  | .area name => [.text name]
  | .nameContains needle | .robotNameContains needle | .tagContains needle => [.text needle]
  | .startTime w | .endTime w | .desiredStartTime w => (w.min.toList ++ w.max.toList).map .time

namespace Sql

def Piece.outline : Piece → Option String
  | .text t => some t
  | .bind _ => none

theorem numbered_congr {ps qs : List Piece} (same : ps.map Piece.outline = qs.map Piece.outline)
    (next : Nat) : Statement.numbered next ps = Statement.numbered next qs := by
  induction ps generalizing qs next with
  | nil =>
    cases List.map_eq_nil_iff.mp same.symm
    rfl
  | cons p ps ih =>
    cases qs with
    | nil => cases same
    | cons q qs =>
      obtain ⟨first, rest⟩ := List.cons.inj same
      cases p with
      | text t =>
        cases q with
        | text u =>
          cases first
          simp only [Statement.numbered, ih rest]
        | bind w => cases first
      | bind v =>
        cases q with
        | text u => cases first
        | bind w => simp only [Statement.numbered, ih rest]

theorem outline_bounds (c : Column) {lo lo' hi hi' : Option Instant} (min : lo.isSome = lo'.isSome)
    (max : hi.isSome = hi'.isSome) :
    (Condition.bounds c lo hi).map Piece.outline =
    (Condition.bounds c lo' hi').map Piece.outline := by
  cases lo <;> cases lo' <;> cases min <;> cases hi <;> cases hi' <;> cases max <;> rfl

theorem outline_pieces {p q : Predicate} (alike : p.Alike q) :
    (Condition.ofPredicate p).pieces.map Piece.outline =
    (Condition.ofPredicate q).pieces.map Piece.outline := by
  cases alike with
  | startTime min max | endTime min max | desiredStartTime min max =>
    simp only [Condition.ofPredicate, Condition.pieces, List.map_cons, List.map_append,
      outline_bounds _ min max]
  | _ => rfl

section
variable {ps qs : List Predicate}

theorem outline_conjuncts (alike : List.Forall₂ Predicate.Alike ps qs) :
    ((ps.map Condition.ofPredicate).flatMap fun c => .text " AND " :: c.pieces).map Piece.outline =
      ((qs.map Condition.ofPredicate).flatMap fun c => .text " AND " :: c.pieces).map
        Piece.outline := by
  induction alike with
  | nil => rfl
  | cons head _ ih =>
    simp only [List.map_cons, List.flatMap_cons, List.map_append, outline_pieces head, ih]

theorem outline_whereClause (alike : List.Forall₂ Predicate.Alike ps qs) :
    (Statement.whereClause (ps.map Condition.ofPredicate)).map Piece.outline =
      (Statement.whereClause (qs.map Condition.ofPredicate)).map Piece.outline := by
  cases alike with
  | nil => rfl
  | cons head rest =>
    simp only [List.map_cons, Statement.whereClause, List.map_append, outline_pieces head,
      outline_conjuncts rest]

end

theorem outline_pagingClause {p q : Paging} (order : p.order = q.order) :
    (Statement.pagingClause p).map Piece.outline =
    (Statement.pagingClause q).map Piece.outline := by
  simp only [Statement.pagingClause, order, List.map_cons, List.map_append, Piece.outline]

theorem count_text_eq {f g : RunFilter}
    (alike : List.Forall₂ Predicate.Alike f.predicates g.predicates) :
    (Statement.count f).text = (Statement.count g).text := by
  apply numbered_congr
  simp only [Statement.count, Statement.pieces, List.map_append, List.map_cons,
    outline_whereClause alike]

theorem page_text_eq {q q' : RunQuery}
    (alike : List.Forall₂ Predicate.Alike q.filter.predicates q'.filter.predicates)
    (sort : q.sort.keys = q'.sort.keys) (w w' : PageWindow) :
    (Statement.page q w).text = (Statement.page q' w').text := by
  have order : (Paging.ofWindow q.sort w).order = (Paging.ofWindow q'.sort w').order := by
    rw [Paging.ofWindow, Paging.ofWindow, sort]
  apply numbered_congr
  simp only [Statement.page, Statement.pieces, List.map_append, List.map_cons,
    outline_whereClause alike, outline_pagingClause order]

/-- The placeholders of a text from left to right: each dollar sign, with the digits behind it as
far as they go. -/
def placeholders : List Char → List String
  | [] => []
  | c :: cs =>
    if c = '$' then String.ofList (c :: cs.takeWhile Char.isDigit) :: placeholders cs
    else placeholders cs

def placeholder (n : Nat) : String := s!"${n}"

theorem placeholders_append {cs : List Char} (plain : '$' ∉ cs) (rest : List Char) :
    placeholders (cs ++ rest) = placeholders rest := by
  induction cs with
  | nil => rfl
  | cons c cs ih =>
    obtain ⟨other, plain⟩ := List.ne_and_not_mem_of_not_mem_cons plain
    rw [List.cons_append, placeholders, if_neg other.symm, ih plain]

theorem placeholders_number {rest : List Char} (stops : Stops Char.isDigit rest) (n : Nat) :
    placeholders ('$' :: (digits n ++ rest)) = placeholder n :: placeholders rest := by
  have all : ∀ c ∈ digits n, c.isDigit = true := fun c => isDigit_of_mem_digits
  have plain : '$' ∉ digits n := fun member => Bool.false_ne_true (all _ member)
  have number : String.ofList ('$' :: digits n) = placeholder n := by
    rw [← String.toList_inj, String.toList_ofList]
    simp [placeholder, toString, digits]
  rw [placeholders, if_pos rfl, stops.takeWhile_append all, number, placeholders_append plain]

def stopsNumber : List Piece → Bool
  | [] | .bind _ :: _ => true
  | .text t :: _ => t.toList.head?.any fun c => !c.isDigit

def plain (t : String) : Bool := !t.toList.contains '$'

/-- The fixed texts are plain, and no number runs on into the text behind it. -/
def spaced : List Piece → Bool
  | [] => true
  | .text t :: ps => plain t && spaced ps
  | .bind _ :: ps => stopsNumber ps && spaced ps

theorem stops_chars {ps : List Piece} (stops : stopsNumber ps = true) (next : Nat) :
    Stops Char.isDigit (chars next ps) := by
  cases ps with
  | nil => exact stops_nil
  | cons p ps =>
    cases p with
    | bind v =>
      rw [chars_bind]
      exact stops_cons rfl
    | text t =>
      obtain ⟨c, first, other⟩ := (Option.any_eq_true _ _).mp stops
      rw [chars_text]
      intro d member
      rw [List.head?_append, first, Option.some_or] at member
      cases member
      simpa using other

theorem placeholders_chars {ps : List Piece} (apart : spaced ps = true) (next : Nat) :
    placeholders (chars next ps) = (List.range' next (boundValues ps).length).map placeholder := by
  induction ps generalizing next with
  | nil => rfl
  | cons p ps ih =>
    cases p with
    | text t =>
      simp only [spaced, plain, Bool.and_eq_true, Bool.not_eq_true', List.contains_eq_mem,
        decide_eq_false_iff_not] at apart
      rw [chars_text, placeholders_append apart.1, ih apart.2]
      rfl
    | bind v =>
      simp only [spaced, Bool.and_eq_true] at apart
      rw [chars_bind, placeholders_number (stops_chars apart.1 _), ih apart.2]
      rfl

theorem spaced_append {ps qs : List Piece} (first : spaced ps = true) (second : spaced qs = true)
    (stops : stopsNumber qs = true) : spaced (ps ++ qs) = true := by
  induction ps with
  | nil => exact second
  | cons p ps ih =>
    cases p with
    | text t =>
      simp only [spaced, Bool.and_eq_true] at first
      simp only [List.cons_append, spaced, Bool.and_eq_true]
      exact ⟨first.1, ih first.2⟩
    | bind v =>
      simp only [spaced, Bool.and_eq_true] at first
      simp only [List.cons_append, spaced, Bool.and_eq_true]
      refine ⟨?_, ih first.2⟩
      cases ps with
      | nil => exact stops
      | cons q ps => cases q <;> exact first.1

theorem plain_append (t u : String) : plain (t ++ u) = (plain t && plain u) := by
  simp only [plain, String.toList_append, List.contains_eq_mem, List.mem_append, Bool.decide_or,
    Bool.not_or]

theorem plain_column (c : Column) {t : String} (rest : plain t = true) :
    plain (c.text ++ t) = true := by
  have column : plain c.text = true := by cases c <;> rfl
  rw [plain_append, column, rest]
  rfl

theorem plain_folded (c : Column) {t : String} (rest : plain t = true) :
    plain (folded c ++ t) = true := by
  have opening : plain "lower(" = true := rfl
  have column : plain (c.text ++ " COLLATE \"C\")") = true := plain_column c rfl
  rw [folded, plain_append, String.append_assoc, plain_append, opening, column, rest]
  rfl

theorem spaced_bounds (c : Column) (lo hi : Option Instant) :
    spaced (Condition.bounds c lo hi) = true := by
  have above : plain (c.text ++ " >= ") = true := plain_column c rfl
  have below : plain (c.text ++ " <= ") = true := plain_column c rfl
  cases lo <;> cases hi <;> simp only [Condition.bounds, spaced, above, below] <;> rfl

theorem spaced_condition (c : Condition) : spaced c.pieces = true := by
  cases c with
  | equals column value =>
    have text : plain (column.text ++ " = ") = true := plain_column column rfl
    simp only [Condition.pieces, spaced, text]
    rfl
  | equalsFolded column value =>
    have text : plain (folded column ++ " = ") = true := plain_folded column rfl
    simp only [Condition.pieces, spaced, text]
    rfl
  | containsFolded column value =>
    have opening : plain "strpos(" = true := rfl
    have text : plain (folded column ++ ", ") = true := plain_folded column rfl
    simp only [Condition.pieces, spaced, String.append_assoc, plain_append "strpos(", opening, text]
    rfl
  | someTagContains value =>
    simp only [Condition.pieces, spaced, plain_append]
    rfl
  | within column nullable lo hi =>
    have bounds := spaced_bounds column lo hi
    cases nullable with
    | false => exact spaced_append bounds rfl rfl
    | true =>
      have text : plain ("(" ++ column.text ++ " IS NULL OR (") = true := by
        rw [String.append_assoc, plain_append, plain_column column rfl]
        rfl
      have closed : spaced (Condition.bounds column lo hi ++ [.text "))"]) = true :=
        spaced_append bounds rfl rfl
      rw [Condition.pieces, spaced, text, closed]
      rfl

theorem spaced_conjuncts (cs : List Condition) :
    spaced (cs.flatMap fun c => .text " AND " :: c.pieces) = true ∧
      stopsNumber (cs.flatMap fun c => .text " AND " :: c.pieces) = true := by
  induction cs with
  | nil => exact ⟨rfl, rfl⟩
  | cons c cs ih => exact ⟨spaced_append (spaced_condition c) ih.1 ih.2, rfl⟩

theorem spaced_whereClause (cs : List Condition) : spaced (Statement.whereClause cs) = true := by
  cases cs with
  | nil => rfl
  | cons c cs =>
    obtain ⟨rest, stops⟩ := spaced_conjuncts cs
    exact spaced_append (spaced_condition c) rest stops

theorem spaced_orderTerms (ts : List OrderTerm) :
    spaced (ts.map fun t => .text (t.text ++ ", ")) = true := by
  induction ts with
  | nil => rfl
  | cons t ts ih =>
    have text : plain (t.text ++ ", ") = true := by
      rw [OrderTerm.text, String.append_assoc, String.append_assoc]
      apply plain_column
      rw [plain_append, plain_append]
      cases t.column.isText <;> cases t.ascending <;> rfl
    simp only [List.map_cons, spaced, text, ih, Bool.and_self]

theorem spaced_pagingClause (p : Paging) : spaced (Statement.pagingClause p) = true :=
  spaced_append (spaced_orderTerms p.order) rfl rfl

theorem spaced_statement (s : Statement) : spaced s.pieces = true := by
  have head : plain (Statement.head s.projection) = true := by cases s.projection <;> rfl
  have opening :
      spaced (.text (Statement.head s.projection) :: Statement.whereClause s.conditions) =
      true := by
    rw [spaced, head, spaced_whereClause]
    rfl
  unfold Statement.pieces
  cases s.paging with
  | none => exact spaced_append opening rfl rfl
  | some p => exact spaced_append opening (spaced_pagingClause p) rfl

theorem placeholders_text (s : Statement) :
    placeholders s.text.toList = (List.range' 1 s.values.length).map placeholder :=
  placeholders_chars (spaced_statement s) 1

theorem values_ofPredicate (p : Predicate) : (Condition.ofPredicate p).values = p.payload := by
  cases p with
  | startTime w | endTime w | desiredStartTime w =>
    obtain ⟨min, max⟩ := w
    cases min <;> cases max <;> rfl
  | _ => rfl

theorem values_conditions (ps : List Predicate) :
    boundValues (Statement.whereClause (ps.map Condition.ofPredicate)) =
    ps.flatMap Predicate.payload := by
  rw [boundValues_whereClause, List.flatMap_map]
  simp only [values_ofPredicate]

theorem count_values (f : RunFilter) :
    (Statement.count f).values = f.predicates.flatMap Predicate.payload := by
  have parts : (Statement.count f).values =
      boundValues (Statement.whereClause (f.predicates.map Condition.ofPredicate)) ++ [] :=
    boundValues_append _ _
  rw [parts, values_conditions, List.append_nil]

theorem page_values_payload (q : RunQuery) (w : PageWindow) :
    (Statement.page q w).values = q.filter.predicates.flatMap Predicate.payload ++
      [.number (Int64.ofInt w.limit.toNat),
        .number (Int64.ofInt (min w.offset maxOffset).toNat)] := by
  have parts : (Statement.page q w).values =
      boundValues (Statement.whereClause (q.filter.predicates.map Condition.ofPredicate)) ++
        boundValues (Statement.pagingClause (Paging.ofWindow q.sort w)) := boundValues_append _ _
  rw [parts, values_conditions, boundValues_pagingClause]
  rfl

structure Builder where
  text : String
  values : List Value

namespace Builder

/-- A text is added as it is. A value leaves in the text how many there are now. -/
def add (b : Builder) : Piece → Builder
  | .text t => ⟨b.text ++ t, b.values⟩
  | .bind v => ⟨b.text ++ placeholder (b.values.length + 1), b.values ++ [v]⟩

theorem foldl_add (b : Builder) (ps : List Piece) :
    ps.foldl add b =
    ⟨b.text ++ Statement.numbered (b.values.length + 1) ps, b.values ++ boundValues ps⟩ := by
  induction ps generalizing b with
  | nil => simp [Statement.numbered, boundValues]
  | cons p ps ih =>
    cases p with
    | text t =>
      have values : boundValues (.text t :: ps) = boundValues ps := rfl
      simp only [List.foldl_cons, add, ih, Statement.numbered, String.append_assoc, values]
    | bind v =>
      have values : boundValues (.bind v :: ps) = v :: boundValues ps := rfl
      simp only [List.foldl_cons, add, ih, Statement.numbered, String.append_assoc, values,
        placeholder, List.length_append, List.length_singleton, List.append_assoc,
        List.singleton_append]

end Builder

theorem build_pieces (s : Statement) :
    s.pieces.foldl Builder.add ⟨"", []⟩ = ⟨s.text, s.values⟩ := by
  rw [Builder.foldl_add]
  simp only [List.length_nil, Nat.zero_add, String.empty_append, List.nil_append]
  rfl

/-- A statement is built piece by piece, each value leaving its number in the text, and in the text
that this makes the placeholders from left to right are those of the numbers from one to the number
of values. The values are listed as the predicates bring them along, and for a page are followed by
its limit and its offset. Filters whose predicates differ in their values only have one text for
their counts, and so have the pages of such filters in one order, whatever parts of the rows they
are. -/
theorem texts_carry_no_value :
    (∀ s : Statement, s.pieces.foldl Builder.add ⟨"", []⟩ = ⟨s.text, s.values⟩ ∧
      placeholders s.text.toList = (List.range' 1 s.values.length).map placeholder) ∧
    (∀ f : RunFilter, (Statement.count f).values = f.predicates.flatMap Predicate.payload) ∧
    (∀ (q : RunQuery) (w : PageWindow),
      (Statement.page q w).values = q.filter.predicates.flatMap Predicate.payload ++
        [.number (Int64.ofInt w.limit.toNat),
        .number (Int64.ofInt (min w.offset maxOffset).toNat)]) ∧
    (∀ f g : RunFilter, List.Forall₂ Predicate.Alike f.predicates g.predicates →
      (Statement.count f).text = (Statement.count g).text) ∧
    ∀ q q' : RunQuery, List.Forall₂ Predicate.Alike q.filter.predicates q'.filter.predicates →
      q.sort.keys = q'.sort.keys →
      ∀ w w' : PageWindow, (Statement.page q w).text = (Statement.page q' w').text := by
  refine ⟨?_, count_values, page_values_payload, fun f g => count_text_eq, fun q q' => page_text_eq⟩
  intro s
  exact ⟨build_pieces s, placeholders_text s⟩

/-- Two searches, of which one looks for what looks like a part of a statement. -/
theorem texts_carry_no_value_searches :
    ∃ q q' : RunQuery, (Statement.page q ⟨0, 10⟩).text = (Statement.page q' ⟨20, 50⟩).text ∧
      (Statement.count q.filter).text = (Statement.count q'.filter).text ∧
      placeholders (Statement.page q' ⟨20, 50⟩).text.toList = ["$1", "$2", "$3", "$4"] := by
  obtain ⟨numbers, _, values, counts, pages⟩ := texts_carry_no_value
  have alike : List.Forall₂ Predicate.Alike
      [.nameContains "deck", .endTime ⟨some ⟨0, 0, by decide, by decide, by decide⟩, none⟩]
      [.nameContains "') OR $9 --",
        .endTime ⟨some ⟨60, 0, by decide, by decide, by decide⟩, none⟩] :=
    .cons (.nameContains _ _) (.cons (.endTime rfl rfl) .nil)
  refine ⟨⟨⟨_⟩, ⟨[⟨.name, .ascending⟩]⟩⟩, ⟨⟨_⟩, ⟨[⟨.name, .ascending⟩]⟩⟩, ?_,
    counts ⟨_⟩ ⟨_⟩ alike, ?_⟩
  · exact pages ⟨⟨_⟩, _⟩ ⟨⟨_⟩, _⟩ alike rfl _ _
  · rw [(numbers _).2, values]
    rfl

end Sql
end MissionTracking
