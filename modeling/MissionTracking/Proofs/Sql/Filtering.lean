import MissionTracking.Proofs.Sql.Meaning
import MissionTracking.Proofs.Sql.Row

/-!
Conditions over the row of a run. The condition of a predicate is true exactly for the runs that fit
the predicate, and false or unknown for the others, wherever the values of the predicate stand among
the bound values.
-/
namespace MissionTracking

/-- The bounds of a window: one at least, and held exactly. -/
structure TimeWindow.Bounded (w : TimeWindow) : Prop where
  some_bound : w.min.isSome ∨ w.max.isSome
  min_exact : ∀ t ∈ w.min, t.Exact
  max_exact : ∀ t ∈ w.max, t.Exact

def Predicate.Bounded : Predicate → Prop
  | .startTime w | .endTime w | .desiredStartTime w => w.Bounded
  | _ => True

namespace Sql

/-- An expression is true in a row exactly when `b` is; otherwise it is false or unknown. -/
def Decides (values : List Datum) (row : Row) (e : Expr) (b : Bool) : Prop :=
  ∃ v, (e.eval values row).bind Datum.verdict? = some v ∧ (v = some true ↔ b = true)

section
variable {values before later : List Datum} {row : Row} {e l r : Expr} {a b : Bool}

theorem Decides.of_truth (value : e.eval values row = some (.truth b)) :
    Decides values row e b := by
  refine ⟨some b, by rw [value]; rfl, ?_⟩
  rw [Option.some.injEq]

theorem Decides.of_null (value : e.eval values row = some .null) : Decides values row e false :=
  ⟨none, by rw [value]; rfl, by simp⟩

theorem Decides.join (hl : Decides values row l a) (hr : Decides values row r b) {op : Operator}
    {c : Bool} (joined : Option Bool → Option Bool → Option Bool)
    (result : ∀ {u v : Datum} {x y : Option Bool}, u.verdict? = some x → v.verdict? = some y →
      op.result? u v = some (.ofVerdict (joined x y)))
    (holds : ∀ {x y : Option Bool}, (x = some true ↔ a = true) → (y = some true ↔ b = true) →
      (joined x y = some true ↔ c = true)) :
    Decides values row (.binary op l r) c := by
  obtain ⟨x, left, x_iff⟩ := hl
  obtain ⟨y, right, y_iff⟩ := hr
  obtain ⟨u, left_value, x_of⟩ := Option.bind_eq_some_iff.mp left
  obtain ⟨v, right_value, y_of⟩ := Option.bind_eq_some_iff.mp right
  refine ⟨joined x y, ?_, holds x_iff y_iff⟩
  rw [eval_binary op left_value right_value, result x_of y_of, Option.bind_some]
  cases joined x y <;> rfl

theorem Decides.and (hl : Decides values row l a) (hr : Decides values row r b) :
    Decides values row (.binary .and l r) (a && b) := by
  refine hl.join hr bothTrue ?_ ?_
  · intro u v x y x_of y_of
    simp only [Operator.result?, x_of, y_of, Option.bind_eq_bind, Option.bind_some]
  · intro x y x_iff y_iff
    rw [Bool.and_eq_true, ← x_iff, ← y_iff]
    rcases x with _ | _ | _ <;> rcases y with _ | _ | _ <;> decide

theorem Decides.or (hl : Decides values row l a) (hr : Decides values row r b) :
    Decides values row (.binary .or l r) (a || b) := by
  refine hl.join hr eitherTrue ?_ ?_
  · intro u v x y x_of y_of
    simp only [Operator.result?, x_of, y_of, Option.bind_eq_bind, Option.bind_some]
  · intro x y x_iff y_iff
    rw [Bool.or_eq_true, ← x_iff, ← y_iff]
    rcases x with _ | _ | _ <;> rcases y with _ | _ | _ <;> decide

theorem Decides.group (h : Decides values row e b) : Decides values row (.group e) b := h

end

theorem eval_column (values : List Datum) (r : MissionRun) (c : Column) :
    c.expr.eval values (.ofRun r) = some (c.datum r) :=
  Row.lookup_ofRun r c

theorem zero_lt_position {needle cs : List Char} :
    0 < position needle cs ↔ Text.occursIn needle cs = true := by
  induction cs with
  | nil =>
    unfold position Text.occursIn
    split <;> simp_all
  | cons c cs ih =>
    unfold position Text.occursIn
    by_cases here : needle.isPrefixOf (c :: cs) = true
    · simp [here]
    · rw [Bool.or_eq_true, ← ih]
      simp only [here, Bool.false_eq_true, if_false, false_or]
      cases position needle cs <;> simp

theorem mapM_eq_some_map {f : α → Option β} {g : α → β} {as : List α}
    (each : ∀ a ∈ as, f a = some (g a)) : as.mapM f = some (as.map g) := by
  induction as with
  | nil => rfl
  | cons a as ih =>
    have ⟨first, others⟩ := List.forall_mem_cons.mp each
    rw [List.mapM_cons, first, ih others]
    rfl

section
variable {values before later : List Datum} {row : Row} {e : Expr} {r : MissionRun} {c : Column}
  {s needle : String}

theorem eval_equals {bytewise : Bool}
    (value : e.eval (before ++ .text needle false :: later) row = some (.text s bytewise)) :
    (Expr.binary (.compare .equal) e (.placeholder (before.length + 1))).eval
      (before ++ .text needle false :: later) row = some (.truth (s == needle)) :=
  eval_binary _ value (eval_placeholder before later _ row)

theorem eval_equals_null (value : e.eval (before ++ .text needle false :: later) row = some .null) :
    (Expr.binary (.compare .equal) e (.placeholder (before.length + 1))).eval
      (before ++ .text needle false :: later) row = some .null :=
  eval_binary _ value (eval_placeholder before later _ row)

theorem eval_contains {bytewise : Bool}
    (value : e.eval (before ++ .text needle false :: later) row = some (.text s bytewise)) :
    (containsExpr e (before.length + 1)).eval (before ++ .text needle false :: later) row =
      some (.truth (Text.contains s needle)) := by
  have place :=
    eval_callWith "strpos" value (eval_placeholder before later (.text needle false) row)
  rw [containsExpr, eval_binary (.compare .greater) place rfl]
  have positive :
      (compare (position needle.toList s.toList : Int) 0 == .gt) = Text.contains s needle := by
    rw [Bool.eq_iff_iff, beq_iff_eq, compare_gt_iff_gt, Text.contains, ← zero_lt_position]
    omega
  rw [← positive]
  rfl

theorem eval_contains_null
    (value : e.eval (before ++ .text needle false :: later) row = some .null) :
    (containsExpr e (before.length + 1)).eval (before ++ .text needle false :: later) row =
    some .null := by
  have place :=
    eval_callWith "strpos" value (eval_placeholder before later (.text needle false) row)
  exact eval_binary (.compare .greater) place rfl

theorem eval_folded (value : c.datum r = .text s false) :
    (foldedExpr c).eval values (.ofRun r) = some (.text (Text.foldCase s) true) := by
  simp only [foldedExpr, Expr.eval, eval_column, value]
  rfl

theorem eval_folded_null (value : c.datum r = .null) :
    (foldedExpr c).eval values (.ofRun r) = some .null := by
  simp only [foldedExpr, Expr.eval, eval_column, value]
  rfl

end

section
variable {row : Row} {c : Column} {t lo hi : Instant} (before later : List Datum)

theorem decides_lower
    (value : c.expr.eval (before ++ timeDatum lo :: later) row = some (timeDatum t))
    (exact : t.Exact) (bound : lo.Exact) :
    Decides (before ++ timeDatum lo :: later) row
      (.binary (.compare .greaterEqual) c.expr (.placeholder (before.length + 1)))
        (decide (lo ≤ t)) := by
  apply Decides.of_truth
  have order : (compare t.microseconds lo.microseconds != .lt) = decide (lo ≤ t) := by
    have swapped : compare lo t = (compare t lo).swap := Std.OrientedCmp.eq_swap
    rw [Instant.compare_microseconds exact bound, Bool.eq_iff_iff, decide_eq_true_iff]
    change _ ↔ (compare lo t).isLE = true
    rw [swapped]
    cases compare t lo <;> decide
  rw [eval_binary _ value (eval_placeholder before later _ row), ← order]
  rfl

theorem decides_upper
    (value : c.expr.eval (before ++ timeDatum hi :: later) row = some (timeDatum t))
    (exact : t.Exact) (bound : hi.Exact) :
    Decides (before ++ timeDatum hi :: later) row
      (.binary (.compare .lessEqual) c.expr (.placeholder (before.length + 1)))
        (decide (t ≤ hi)) := by
  apply Decides.of_truth
  have order : (compare t.microseconds hi.microseconds != .gt) = decide (t ≤ hi) := by
    rw [Instant.compare_microseconds exact bound, Bool.eq_iff_iff, decide_eq_true_iff]
    change _ ↔ (compare t hi).isLE = true
    cases compare t hi <;> decide
  rw [eval_binary _ value (eval_placeholder before later _ row), ← order]
  rfl

def windowValues (w : TimeWindow) : List Datum := (w.min.toList ++ w.max.toList).map timeDatum

theorem decides_window {w : TimeWindow} (bounded : w.Bounded)
    (value : ∀ values, c.expr.eval values row = some (timeDatum t)) (exact : t.Exact) :
    Decides (before ++ (windowValues w ++ later)) row (boundsExpr c (before.length + 1) w.min w.max)
      (w.contains t) := by
  obtain ⟨min, max⟩ := w
  obtain ⟨some_bound, min_exact, max_exact⟩ := bounded
  rcases min with _ | lo <;> rcases max with _ | hi
  · simp at some_bound
  · have upper := decides_upper before later (value _) exact (max_exact hi rfl)
    rwa [← Bool.true_and (decide (t ≤ hi))] at upper
  · have lower := decides_lower before later (value _) exact (min_exact lo rfl)
    rwa [← Bool.and_true (decide (lo ≤ t))] at lower
  · -- The value of the upper bound follows that of the lower one.
    have lower := decides_lower before (timeDatum hi :: later) (value _) exact (min_exact lo rfl)
    have upper := decides_upper (before ++ [timeDatum lo]) later (value _) exact (max_exact hi rfl)
    rw [List.append_assoc, List.length_append] at upper
    exact lower.and upper

theorem decides_compare_null (comparison : Comparison) {d : Datum}
    (value : c.expr.eval (before ++ d :: later) row = some .null) :
    Decides (before ++ d :: later) row
      (.binary (.compare comparison) c.expr (.placeholder (before.length + 1))) false :=
  .of_null (eval_binary _ value (eval_placeholder before later _ row))

theorem decides_window_null {w : TimeWindow} (bounded : w.Bounded)
    (value : ∀ values, c.expr.eval values row = some .null) :
    Decides (before ++ (windowValues w ++ later)) row
      (boundsExpr c (before.length + 1) w.min w.max) false := by
  obtain ⟨min, max⟩ := w
  rcases min with _ | lo <;> rcases max with _ | hi
  · exact absurd bounded.some_bound (by simp)
  · exact decides_compare_null before later .lessEqual (value _)
  · exact decides_compare_null before later .greaterEqual (value _)
  · have lower := decides_compare_null before (timeDatum hi :: later) .greaterEqual
      (d := timeDatum lo) (value _)
    have upper :=
      decides_compare_null (before ++ [timeDatum lo]) later .lessEqual (d := timeDatum hi) (value _)
    rw [List.append_assoc, List.length_append] at upper
    exact lower.and upper

end

theorem values_within (c : Column) (nullable : Bool) (w : TimeWindow) :
    (Condition.within c nullable w.min w.max).values.map Value.datum = windowValues w := by
  obtain ⟨min, max⟩ := w
  cases nullable <;> cases min <;> cases max <;> rfl

theorem decides_admits {w : TimeWindow} (bounded : w.Bounded) {r : MissionRun} {c : Column}
    {time : Option Instant}
    (held : c.datum r = optional timeDatum time) (exact : ∀ t ∈ time, t.Exact)
    (before later : List Datum) :
    Decides
      (before ++ ((Condition.within c true w.min w.max).values.map Value.datum ++ later)) (.ofRun r)
      ((Condition.within c true w.min w.max).expr (before.length + 1)) (w.admits time) := by
  rw [values_within]
  have value (values : List Datum) :
      c.expr.eval values (.ofRun r) = some (optional timeDatum time) := by
    rw [eval_column, held]
  have unset (values : List Datum) :
      (Expr.isNull c.expr).eval values (.ofRun r) = some (.truth time.isNone) := by
    rw [Expr.eval, value]
    cases time <;> rfl
  cases time with
  | none => exact (Decides.or (.of_truth (unset _))
    (decides_window_null before later bounded value).group).group
  | some t =>
    have inside := decides_window before later bounded value (exact t rfl)
    exact (Decides.or (.of_truth (unset _)) inside.group).group

def tagExpr : Expr :=
  .call "lower" (.collate (.group (.binary .memberText (.name "task") (.literal "tagId"))) "C")

def tagVerdict (needle : String) (t : MissionTask) : Option Bool :=
  t.tagId.map fun tag => Text.contains (Text.foldCase tag) needle

theorem tag_verdict (before later : List Datum) (needle : String) (t : MissionTask) (row : Row) :
    ((containsExpr tagExpr (before.length + 1)).eval (before ++ .text needle false :: later)
      (("task", .document t.toJson) :: row)).bind Datum.verdict? = some (tagVerdict needle t) := by
  cases tag : t.tagId with
  | none =>
    have unset :
        tagExpr.eval (before ++ .text needle false :: later) (("task", .document t.toJson) :: row) =
        some .null := by
      have member : memberText? t.toJson "tagId" = some .null := by
        rw [MissionTask.toJson, tag]
        rfl
      simp only [tagExpr, Expr.eval, List.lookup_cons_self, Option.bind_eq_bind, Option.bind_some,
        Operator.result?, member]
      rfl
    rw [eval_contains_null unset, tagVerdict, tag]
    rfl
  | some s =>
    have folded :
        tagExpr.eval (before ++ .text needle false :: later) (("task", .document t.toJson) :: row) =
        some (.text (Text.foldCase s) true) := by
      have member : memberText? t.toJson "tagId" = some (.text s false) := by
        rw [MissionTask.toJson, tag]
        rfl
      simp only [tagExpr, Expr.eval, List.lookup_cons_self, Option.bind_eq_bind, Option.bind_some,
        Operator.result?, member]
      rfl
    rw [eval_contains folded, tagVerdict, tag]
    rfl

theorem decides_tagSearch (before later : List Datum) (needle : String) (r : MissionRun) :
    Decides (before ++ .text needle false :: later) (.ofRun r)
      ((Condition.someTagContains needle).expr (before.length + 1))
      (r.tags.any fun tag => Text.contains (Text.foldCase tag) needle) := by
  have tasks : member? r.toJson "tasks" = some (.array (r.tasks.map MissionTask.toJson)) := rfl
  have payload (values : List Datum) :
      (Expr.name "payload").eval values (.ofRun r) = some (.document r.toJson) :=
    eval_column values r .payload
  have elements (values : List Datum) :
      (((Expr.binary .member (.name "payload") (.literal "tasks")).eval values (.ofRun r)).bind
        (elements? "jsonb_array_elements")) = some (r.tasks.map MissionTask.toJson) := by
    rw [eval_binary .member (payload values) rfl]
    simp only [Operator.result?, tasks]
    rfl
  have verdicts : ((r.tasks.map MissionTask.toJson).mapM fun j =>
      ((containsExpr tagExpr (before.length + 1)).eval (before ++ .text needle false :: later)
        (("task", .document j) :: Row.ofRun r)).bind Datum.verdict?) =
        some (r.tasks.map (tagVerdict needle)) := by
    rw [List.mapM_map]
    exact mapM_eq_some_map fun t _ => tag_verdict before later needle t (.ofRun r)
  -- A task without a tag is unknown to the condition and has no part in the tags of the run.
  have found : (r.tasks.map (tagVerdict needle)).contains (some true) =
      r.tags.any fun tag => Text.contains (Text.foldCase tag) needle := by
    rw [Bool.eq_iff_iff, List.contains_iff_mem, List.mem_map, List.any_eq_true]
    simp only [tagVerdict, MissionRun.tags, List.mem_filterMap, Option.map_eq_some_iff]
    constructor
    · rintro ⟨t, member, tag, set, contains⟩
      exact ⟨tag, ⟨t, member, set⟩, contains⟩
    · rintro ⟨tag, ⟨t, member, set⟩, contains⟩
      exact ⟨t, member, tag, set, contains⟩
  apply Decides.of_truth
  rw [← found]
  exact eval_existsIn (elements _) verdicts

theorem decides_predicate {p : Predicate} (bounded : p.Bounded) {r : MissionRun} (exact : Exact r)
    (before later : List Datum) :
    Decides (before ++ ((Condition.ofPredicate p).values.map Value.datum ++ later)) (.ofRun r)
      ((Condition.ofPredicate p).expr (before.length + 1)) (p.fits r) := by
  have column (c : Column) (values : List Datum) := eval_column values r c
  cases p with
  | assetCode code => exact .of_truth (eval_equals (eval_folded rfl))
  | status s =>
    have same : (r.status == s) = (r.status.text == s.text) := by
      rw [Bool.eq_iff_iff, beq_iff_eq, beq_iff_eq, MissionStatus.text_injective]
    rw [Predicate.fits, same]
    exact .of_truth (eval_equals (column .status _))
  | robotId id => exact .of_truth (eval_equals (column .robotId _))
  | robotModel model =>
    have same : (r.robot.model == model) = (r.robot.model.name == model.name) := by
      cases r.robot.model <;> cases model <;> decide
    rw [Predicate.fits, same]
    exact .of_truth (eval_equals (column .robotModelType _))
  | area name =>
    cases area : r.area with
    | none =>
      have unset : Column.areaName.datum r = .null := by rw [Column.datum, area]; rfl
      rw [Predicate.fits, area]
      exact .of_null (eval_equals_null (eval_folded_null unset))
    | some a =>
      have set : Column.areaName.datum r = .text a.name false := by rw [Column.datum, area]; rfl
      rw [Predicate.fits, area]
      exact .of_truth (eval_equals (eval_folded set))
  | nameContains needle => exact .of_truth (eval_contains (eval_folded rfl))
  | robotNameContains needle => exact .of_truth (eval_contains (eval_folded rfl))
  | tagContains needle => exact decides_tagSearch before later needle r
  | startTime w => exact decides_admits bounded rfl exact.startTime before later
  | endTime w => exact decides_admits bounded rfl exact.endTime before later
  | desiredStartTime w =>
    rw [Condition.ofPredicate, values_within]
    exact (decides_window before later bounded (column .desiredStartTime)
      exact.desiredStartTime).group

def predicateValues (ps : List Predicate) : List Datum :=
  ps.flatMap fun p => (Condition.ofPredicate p).values.map Value.datum

section
variable {r : MissionRun}

theorem decides_foldl {ps : List Predicate} (bounded : ∀ p ∈ ps, p.Bounded) (exact : Exact r)
    {before later : List Datum} {e : Expr} {b : Bool}
    (first : Decides (before ++ (predicateValues ps ++ later)) (.ofRun r) e b) :
    Decides (before ++ (predicateValues ps ++ later)) (.ofRun r)
      ((conditionExprs (before.length + 1) (ps.map Condition.ofPredicate)).foldl (.binary .and) e)
      (b && ps.all (·.fits r)) := by
  -- Induction on the predicates: the values of one that is done join those before, where no later
  -- number reaches them.
  induction ps generalizing before e b with
  | nil => rwa [List.all_nil, Bool.and_true]
  | cons p ps ih =>
    have ⟨own, others⟩ := List.forall_mem_cons.mp bounded
    rw [predicateValues, List.flatMap_cons, ← predicateValues, List.append_assoc] at first ⊢
    have both := first.and (decides_predicate own exact before (predicateValues ps ++ later))
    rw [← List.append_assoc] at both ⊢
    have all := ih others both
    rw [List.length_append, List.length_map, Nat.add_right_comm] at all
    rwa [List.map_cons, conditionExprs, List.foldl_cons, List.all_cons, ← Bool.and_assoc]

theorem passes?_select {f : RunFilter} (bounded : ∀ p ∈ f.predicates, p.Bounded) (exact : Exact r)
    {s : Statement}
    (conditions : s.conditions = f.predicates.map Condition.ofPredicate) (later : List Datum) :
    s.select.passes? (predicateValues f.predicates ++ later) (.ofRun r) = some (f.fits r) := by
  have condition : s.select.condition = conjunction (conditionExprs 1 s.conditions) := rfl
  rw [Select.passes?, condition, conditions, RunFilter.fits]
  cases listed : f.predicates with
  | nil => rfl
  | cons p ps =>
    rw [listed] at bounded
    have ⟨own, others⟩ := List.forall_mem_cons.mp bounded
    have first : Decides
      ((Condition.ofPredicate p).values.map Value.datum ++ (predicateValues ps ++ later)) (.ofRun r)
        ((Condition.ofPredicate p).expr 1) (p.fits r) := decides_predicate own exact [] _
    obtain ⟨v, decided, v_iff⟩ := decides_foldl others exact first
    have verdict : (v == some true) = (p.fits r && ps.all (·.fits r)) := by
      rw [Bool.eq_iff_iff, beq_iff_eq, v_iff]
    have values : predicateValues (p :: ps) ++ later =
        (Condition.ofPredicate p).values.map Value.datum ++ (predicateValues ps ++ later) := by
      rw [predicateValues, List.flatMap_cons, List.append_assoc, ← predicateValues]
    rw [List.length_map, Nat.add_comm _ 1] at decided
    simp only [List.map_cons, conditionExprs, conjunction, values, decided, Option.map_some,
      verdict, List.all_cons]

end

theorem boundValues_whereClause (cs : List Condition) :
    boundValues (Statement.whereClause cs) = cs.flatMap Condition.values := by
  have later : ∀ cs : List Condition,
      boundValues (cs.flatMap fun c => .text " AND " :: c.pieces) =
      cs.flatMap Condition.values := by
    intro cs
    induction cs with
    | nil => rfl
    | cons c cs ih =>
      have own : boundValues (.text " AND " :: c.pieces) = c.values := rfl
      rw [List.flatMap_cons, List.flatMap_cons, boundValues_append, own, ih]
  cases cs with
  | nil => rfl
  | cons c cs =>
    have whole : boundValues (Statement.whereClause (c :: cs)) =
        boundValues (c.pieces ++ cs.flatMap fun c => .text " AND " :: c.pieces) := rfl
    rw [whole, boundValues_append, later, List.flatMap_cons]
    rfl

end Sql
end MissionTracking
