import MissionTracking.Proofs.Run.Identity
import MissionTracking.Proofs.Sql.Filtering
import MissionTracking.Proofs.Sql.Ordering

/-!
Listings pushed down to a database. The texts of the two statements of a query, with their values
for the placeholders, answer over the rows of some runs what the query selects of these runs in
memory: the number of those that fit and the documents of one page, in order.
-/
namespace MissionTracking
open Std

namespace TimeWindow

theorem bound_ok {field : String} {second : Option Int64} {bound : Option Instant}
    (read : TimeWindow.bound field second = .ok bound) :
    bound.isSome = second.isSome ∧ ∀ t ∈ bound, t.Exact := by
  unfold TimeWindow.bound at read
  cases second with
  | none =>
    cases read
    exact ⟨rfl, fun _ member => by cases member⟩
  | some s =>
    dsimp only at read
    split at read
    · rename_i t read_t
      cases read
      refine ⟨rfl, ?_⟩
      rintro u member
      cases member
      exact Instant.exact_of_ofSecond? read_t
    · cases read

theorem bounded_of_ofBounds {field : String} {min max : Option Int64} {window : Option TimeWindow}
    (made : TimeWindow.ofBounds field min max = .ok window) : ∀ w ∈ window, w.Bounded := by
  rintro w member
  unfold TimeWindow.ofBounds at made
  split at made
  · cases made
    cases member
  · rename_i given
    obtain ⟨lower, lower_read, made⟩ := bind_ok_iff.mp made
    obtain ⟨upper, upper_read, made⟩ := bind_ok_iff.mp made
    obtain ⟨lower_some, lower_exact⟩ := bound_ok lower_read
    obtain ⟨upper_some, upper_exact⟩ := bound_ok upper_read
    have bounds : w = ⟨lower, upper⟩ := by
      split at made
      · split at made <;> cases made
        cases member
        rfl
      · cases made
        cases member
        rfl
    subst bounds
    refine ⟨?_, lower_exact, upper_exact⟩
    rw [lower_some, upper_some]
    cases min <;> cases max <;> simp at given ⊢

end TimeWindow

theorem RunFilter.bounded_of_ofParameters {p : QueryParameters} {f : RunFilter}
    (filtered : RunFilter.ofParameters p = .ok f) : ∀ q ∈ f.predicates, q.Bounded := by
  obtain ⟨start, start_made, filtered⟩ := bind_ok_iff.mp filtered
  obtain ⟨finish, finish_made, filtered⟩ := bind_ok_iff.mp filtered
  obtain ⟨desired, desired_made, filtered⟩ := bind_ok_iff.mp filtered
  cases filtered
  intro q member
  obtain ⟨given, listed, set⟩ := List.mem_filterMap.mp member
  simp only [List.mem_cons, List.not_mem_nil, or_false] at listed
  rcases listed with rfl | rfl | rfl | rfl | rfl | rfl | rfl | rfl | rfl | rfl | rfl
  all_goals obtain ⟨v, held, rfl⟩ := Option.map_eq_some_iff.mp set
  any_goals trivial
  · exact TimeWindow.bounded_of_ofBounds start_made v held
  · exact TimeWindow.bounded_of_ofBounds finish_made v held
  · exact TimeWindow.bounded_of_ofBounds desired_made v held

namespace Sql

theorem Condition.bounded_ofPredicate {q : Predicate} (bounded : q.Bounded) :
    (Condition.ofPredicate q).Bounded := by
  cases q with
  | startTime w | endTime w | desiredStartTime w => exact bounded.some_bound
  | _ => trivial

namespace Statement

theorem values_datum {s : Statement} {ps : List Predicate}
    (conditions : s.conditions = ps.map Condition.ofPredicate) :
    s.values.map Value.datum =
    predicateValues ps ++ (boundValues s.closingPieces).map Value.datum := by
  have whole : s.values = boundValues (whereClause s.conditions) ++ boundValues s.closingPieces :=
    boundValues_append _ _
  rw [whole, List.map_append, boundValues_whereClause, conditions, List.flatMap_map,
    List.map_flatMap]
  rfl

theorem afterConditions_eq {s : Statement} {ps : List Predicate}
    (conditions : s.conditions = ps.map Condition.ofPredicate) :
    s.afterConditions = (predicateValues ps).length + 1 := by
  rw [afterConditions, boundValues_whereClause, conditions, List.flatMap_map, Nat.add_comm,
    ← List.length_map Value.datum, List.map_flatMap]
  rfl

end Statement

section
variable {runs : List MissionRun} {kept rows : List Row}

theorem passing?_select {f : RunFilter} (bounded : ∀ q ∈ f.predicates, q.Bounded) {s : Statement}
    (conditions : s.conditions = f.predicates.map Condition.ofPredicate) (later : List Datum)
    (exact : ∀ r ∈ runs, Exact r) (table : rows.Perm (runs.map Row.ofRun)) :
    ∃ kept, s.select.passing? (predicateValues f.predicates ++ later) rows = some kept ∧
      kept.Perm ((runs.filter f.fits).map Row.ofRun) := by
  have passes (r : MissionRun) (listed : r ∈ runs) :
      s.select.passes? (predicateValues f.predicates ++ later) (.ofRun r) = some (f.fits r) :=
    passes?_select bounded (exact r listed) conditions later
  have decided :
      (rows.all fun row => (s.select.passes? (predicateValues f.predicates ++ later) row).isSome) =
      true := by
    rw [List.all_eq_true]
    intro row member
    obtain ⟨r, listed, rfl⟩ := List.mem_map.mp (table.mem_iff.mp member)
    rw [passes r listed]
    rfl
  refine ⟨_, if_pos decided, (table.filter _).trans ?_⟩
  rw [List.filter_map]
  apply List.Perm.of_eq
  congr 1
  apply List.filter_congr
  intro r listed
  rw [Function.comp_apply, passes r listed]
  cases f.fits r <;> rfl

theorem arranged_iff (values : List Datum) (spec : SortSpec)
    (distinct : (runs.map MissionRun.id).Nodup)
    (exact : ∀ r ∈ runs, Exact r) (held : kept.Perm (runs.map Row.ofRun)) (arranged : List Row) :
    Arranged values ((spec.keys.map OrderTerm.ofKey).map OrderTerm.term ++ [idTerm]) kept arranged ↔
      arranged = (spec.sort runs).map Row.ofRun := by
  have sort_perm : ((spec.sort runs).map Row.ofRun).Perm kept :=
    ((spec.sort_perm runs).map Row.ofRun).trans held.symm
  have sorted : ((spec.sort runs).map Row.ofRun).Pairwise fun a b =>
      ∃ o, compareTerms? values ((spec.keys.map OrderTerm.ofKey).map OrderTerm.term ++ [idTerm]) a
        b = some o ∧
        o.isLE = true := by
    rw [List.pairwise_map]
    refine (spec.sort_pairwise runs).imp_of_mem ?_
    intro a b ha hb le
    have exact_a := exact a ((spec.sort_perm runs).mem_iff.mp ha)
    have exact_b := exact b ((spec.sort_perm runs).mem_iff.mp hb)
    exact ⟨spec.order a b, compareTerms?_order spec exact_a exact_b, le⟩
  constructor
  · intro given
    -- Two sorted rearrangements of the same rows, and rows that tie are those of one run.
    refine (given.perm.trans sort_perm.symm).eq_of_pairwise ?_ given.sorted sorted
    rintro _ _ ha hb ⟨o, first, first_le⟩ ⟨o', second, second_le⟩
    obtain ⟨a, a_listed, rfl⟩ := List.mem_map.mp ((given.perm.trans held).mem_iff.mp ha)
    obtain ⟨b, b_listed, rfl⟩ := List.mem_map.mp ((sort_perm.trans held).mem_iff.mp hb)
    rw [compareTerms?_order spec (exact a a_listed) (exact b b_listed)] at first
    rw [compareTerms?_order spec (exact b b_listed) (exact a a_listed)] at second
    cases first
    cases second
    have tie : spec.order a b = .eq := OrientedCmp.isLE_antisymm first_le second_le
    rw [List.inj_on_of_nodup_map distinct a_listed b_listed (SortSpec.id_eq_of_tie tie)]
  · rintro rfl
    exact ⟨sort_perm, sorted⟩

end

theorem rowCount?_placeholder (before later : List Datum) (n : Nat) :
    rowCount? (before ++ .number n :: later) (.placeholder (before.length + 1)) = some n := by
  rw [rowCount?, eval_placeholder]

theorem drop_min {as : List α} {n most : Nat} (few : as.length ≤ most) :
    as.drop (min n most) = as.drop n := by
  rcases Nat.le_total n most with within | beyond
  · rw [Nat.min_eq_left within]
  · rw [Nat.min_eq_right beyond, List.drop_eq_nil_of_le few,
      List.drop_eq_nil_of_le (few.trans beyond)]

theorem offset_toNat (offset : UInt64) :
    (min offset maxOffset).toNat = min offset.toNat maxOffset.toNat := by
  simp only [Min.min, UInt64.le_iff_toNat_le]
  split <;> rfl

theorem number_datum {n : Nat} (small : n < 2 ^ 63) :
    Value.datum (.number (Int64.ofInt n)) = .number n := by
  have same : (Int64.ofInt n).toInt = n := Int64.toInt_ofInt_of_le (by omega) (by omega)
  rw [Value.datum, same]

theorem page_values (q : RunQuery) (w : PageWindow) :
    (Statement.page q w).values.map Value.datum =
      predicateValues q.filter.predicates ++
        [.number w.limit.toNat, .number (min w.offset maxOffset).toNat] := by
  have limit_small : w.limit.toNat < 2 ^ 63 := w.limit.toNat_lt.trans (by decide)
  have offset_small : (min w.offset maxOffset).toNat < 2 ^ 63 := by
    rw [offset_toNat]
    exact Nat.lt_of_le_of_lt (Nat.min_le_right _ _) (by decide)
  have closing : boundValues (Statement.page q w).closingPieces =
      [.number (Int64.ofInt w.limit.toNat), .number (Int64.ofInt (min w.offset maxOffset).toNat)] :=
    boundValues_pagingClause (Paging.ofWindow q.sort w)
  rw [Statement.values_datum rfl, closing, List.map_cons, List.map_cons, number_datum limit_small,
    number_datum offset_small]
  rfl

theorem part?_page (q : RunQuery) (w : PageWindow) {rows : List Row} (few : rows.length < 2 ^ 63) :
    (Statement.page q w).select.part? ((Statement.page q w).values.map Value.datum) rows =
      some ((rows.drop w.offset.toNat).take w.limit.toNat) := by
  have after :
      (Statement.page q w).afterConditions = (predicateValues q.filter.predicates).length + 1 :=
    Statement.afterConditions_eq rfl
  have limit : rowCount? ((Statement.page q w).values.map Value.datum)
    (.placeholder (Statement.page q w).afterConditions) =
      some w.limit.toNat := by
    rw [page_values, after]
    exact rowCount?_placeholder _ _ _
  have offset : rowCount? ((Statement.page q w).values.map Value.datum)
      (.placeholder ((Statement.page q w).afterConditions + 1)) =
      some (min w.offset maxOffset).toNat := by
    have counted :=
      rowCount?_placeholder (predicateValues q.filter.predicates ++ [.number w.limit.toNat]) []
      (min w.offset maxOffset).toNat
    rw [List.length_append, List.append_assoc] at counted
    rw [page_values, after]
    exact counted
  have most : rows.length ≤ maxOffset.toNat := Nat.le_of_lt_succ few
  -- An offset that is too large to bind lies beyond every row, and so does the largest one.
  have clamped : rows.drop (min w.offset maxOffset).toNat = rows.drop w.offset.toNat := by
    rw [offset_toNat, drop_min most]
  have limits : (Statement.page q w).select.limit =
      some (.placeholder (Statement.page q w).afterConditions) := rfl
  have offsets : (Statement.page q w).select.offset =
      some (.placeholder ((Statement.page q w).afterConditions + 1)) := rfl
  simp only [Select.part?, limits, offsets, limit, offset, Option.map_some, Option.bind_eq_bind,
    Option.bind_some, clamped]

theorem mapM_payload (runs : List MissionRun) :
    ((runs.map Row.ofRun).mapM fun row => row.lookup "payload") =
    some (runs.map fun r => .document r.toJson) := by
  rw [List.mapM_map]
  exact mapM_eq_some_map fun r _ => Row.lookup_ofRun r .payload

/-- The answers that the text of a statement can have over the rows of the table of runs, with the
values of the statement for its placeholders. -/
def Statement.TextAnswers (s : Statement) (rows : List Row) (answer : List Datum) : Prop :=
  ∃ read, Select.ofText? s.text = some read ∧ read.table = "mission_runs" ∧
    read.Answers (s.values.map Value.datum) rows answer

section
variable {f : RunFilter} {runs : List MissionRun} {rows : List Row} {answer : List Datum}

theorem Statement.textAnswers_iff {s : Statement} (bounded : ∀ q ∈ f.predicates, q.Bounded)
    (conditions : s.conditions = f.predicates.map Condition.ofPredicate) :
    s.TextAnswers rows answer ↔ s.select.Answers (s.values.map Value.datum) rows answer := by
  have read : Select.ofText? s.text = some s.select := by
    apply Statement.ofText?_text
    intro c member
    rw [conditions] at member
    obtain ⟨q, listed, rfl⟩ := List.mem_map.mp member
    exact Condition.bounded_ofPredicate (bounded q listed)
  constructor
  · rintro ⟨s', read', _, answers⟩
    rw [read] at read'
    cases read'
    exact answers
  · exact fun answers => ⟨s.select, read, rfl, answers⟩

theorem count_answers_iff (bounded : ∀ q ∈ f.predicates, q.Bounded) (exact : ∀ r ∈ runs, Exact r)
    (table : rows.Perm (runs.map Row.ofRun)) :
    (Statement.count f).select.Answers ((Statement.count f).values.map Value.datum) rows answer ↔
      answer = [.number (runs.filter f.fits).length] := by
  have values : (Statement.count f).values.map Value.datum = predicateValues f.predicates ++ [] :=
    Statement.values_datum rfl
  obtain ⟨kept, passing, held⟩ :=
    passing?_select bounded (s := Statement.count f) rfl [] exact table
  have counted : kept.length = (runs.filter f.fits).length := by
    rw [held.length_eq, List.length_map]
  rw [values, ← counted]
  constructor
  · rintro (⟨_, _, passing'⟩ | ⟨target, _, _, _, _⟩)
    · rw [passing] at passing'
      cases passing'
      rfl
    · cases target
  · rintro rfl
    exact .count rfl ⟨rfl, rfl, rfl⟩ passing

theorem page_answers_iff (bounded : ∀ q ∈ f.predicates, q.Bounded) (sort : SortSpec)
    (window : PageWindow) (distinct : (runs.map MissionRun.id).Nodup) (exact : ∀ r ∈ runs, Exact r)
    (few : runs.length < 2 ^ 63) (table : rows.Perm (runs.map Row.ofRun)) :
    (Statement.page ⟨f, sort⟩ window).select.Answers
      ((Statement.page ⟨f, sort⟩ window).values.map Value.datum) rows
        answer ↔
      answer = (RunQuery.select ⟨f, sort⟩ runs window).items.map fun r => .document r.toJson := by
  have values : (Statement.page ⟨f, sort⟩ window).values.map Value.datum =
      predicateValues f.predicates ++ _ :=
    Statement.values_datum rfl
  obtain ⟨kept, passing, held⟩ :=
    passing?_select bounded (s := Statement.page ⟨f, sort⟩ window) rfl _ exact table
  rw [← values] at passing
  have arranged := arranged_iff ((Statement.page ⟨f, sort⟩ window).values.map Value.datum) sort
    (distinct.sublist (List.filter_sublist.map MissionRun.id))
      (fun r listed => exact r (List.mem_filter.mp listed).1) held
  have fewer : ((RunQuery.matching ⟨f, sort⟩ runs).map Row.ofRun).length < 2 ^ 63 := by
    rw [List.length_map, RunQuery.matching, (sort.sort_perm _).length_eq]
    exact Nat.lt_of_le_of_lt (List.length_filter_le _ _) few
  have part := part?_page ⟨f, sort⟩ window fewer
  rw [← List.map_drop, ← List.map_take] at part
  constructor
  · rintro (⟨target, _, _⟩ | ⟨target, passing', order, part', shows⟩)
    · cases target
    · rw [passing] at passing'
      cases passing'
      cases target
      rw [(arranged _).mp order] at part'
      rw [RunQuery.matching] at part
      rw [part] at part'
      cases part'
      rw [mapM_payload] at shows
      cases shows
      rfl
  · rintro rfl
    exact .column rfl passing ((arranged _).mpr rfl) part (mapM_payload _)

theorem toJson_injective_on (distinct : (runs.map MissionRun.id).Nodup) {a b : MissionRun}
    (ha : a ∈ runs) (hb : b ∈ runs) (same : a.toJson = b.toJson) : a = b := by
  rw [MissionRun.toJson, MissionRun.toJson, Json.object.injEq, List.cons.injEq, Prod.mk.injEq,
    Json.string.injEq] at same
  exact List.inj_on_of_nodup_map distinct ha hb same.1.2

end

/-- The texts of the count and of the page of a query have one answer each over a table that holds
some runs exactly, in whatever order its rows come: the number of runs that fit, and the documents
of the runs that the query selects in memory, in the same order. A document tells which of the runs
it is. Lists in memory are shorter than the largest offset that can be bound. -/
theorem texts_answer_select {p : QueryParameters} {f : RunFilter}
    (filtered : RunFilter.ofParameters p = .ok f)
    (sort : SortSpec) (window : PageWindow) {runs : List MissionRun}
    (distinct : (runs.map MissionRun.id).Nodup)
    (exact : ∀ r ∈ runs, Exact r) (few : runs.length < 2 ^ 63) {rows : List Row}
    (table : rows.Perm (runs.map Row.ofRun)) :
    (∀ answer, (Statement.count f).TextAnswers rows answer ↔
      answer = [.number (RunQuery.select ⟨f, sort⟩ runs window).totalCount.toNat]) ∧
    (∀ answer, (Statement.page ⟨f, sort⟩ window).TextAnswers rows answer ↔
      answer = (RunQuery.select ⟨f, sort⟩ runs window).items.map fun r => .document r.toJson) ∧
    ∀ a ∈ runs, ∀ b ∈ runs, a.toJson = b.toJson → a = b := by
  have bounded := RunFilter.bounded_of_ofParameters filtered
  refine ⟨?_, ?_, fun a ha b hb => toJson_injective_on distinct ha hb⟩
  · intro answer
    have total :
        (RunQuery.select ⟨f, sort⟩ runs window).totalCount.toNat = (runs.filter f.fits).length := by
      have fewer := List.length_filter_le f.fits runs
      have found : (RunQuery.matching ⟨f, sort⟩ runs).length = (runs.filter f.fits).length :=
        (sort.sort_perm _).length_eq
      rw [RunQuery.select, UInt64.toNat_ofNat', found, Nat.mod_eq_of_lt (by omega)]
    rw [Statement.textAnswers_iff bounded rfl, count_answers_iff bounded exact table, total]
  · intro answer
    rw [Statement.textAnswers_iff bounded rfl,
      page_answers_iff bounded sort window distinct exact few table]

def valveSearch : QueryParameters := { nameSearch := some " Valve ", minStartTime := some 0 }

def valves : RunFilter :=
  ⟨[.nameContains "valve", .startTime ⟨some (MissionRun.plain "a").desiredStartTime, none⟩]⟩

def deckAndValve : List MissionRun :=
  [.plain "b", { MissionRun.plain "a" with name := "VALVE check" }]

theorem texts_answer_select_valves :
    (∀ answer, (Statement.count valves).TextAnswers (deckAndValve.map Row.ofRun) answer ↔
      answer = [.number 1]) ∧
      ∀ answer,
      (Statement.page ⟨valves, .byName⟩ ⟨0, 1⟩).TextAnswers (deckAndValve.map Row.ofRun) answer ↔
        answer = [.document { MissionRun.plain "a" with name := "VALVE check" }.toJson] := by
  have filtered : RunFilter.ofParameters valveSearch = .ok valves := by decide +kernel
  have exact : ∀ r ∈ deckAndValve, Exact r := by decide
  have selected : (RunQuery.select ⟨valves, .byName⟩ deckAndValve ⟨0, 1⟩) =
      ⟨[{ MissionRun.plain "a" with name := "VALVE check" }], 1⟩ := by decide +kernel
  have ⟨count, page, _⟩ :=
    texts_answer_select filtered .byName ⟨0, 1⟩ (by decide) exact (by decide) (.refl _)
  rw [selected] at count page
  exact ⟨count, page⟩

end Sql
end MissionTracking
