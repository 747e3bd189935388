import MissionTracking.Proofs.Sql.Meaning
import MissionTracking.Proofs.Sql.Row

/-!
Orders over the rows of runs. Each term compares the rows of two runs as its sort key compares the
runs, unset values and direction included, and all terms together as the sort specification does.
-/
namespace MissionTracking.Sql

section
variable {values : List Datum} {t : Term} {ra rb : Row}

theorem compare?_optional [Ord α] {datum : α → Datum} {x y : Option α}
    (nulls : t.nullsFirst = some t.ascending)
    (first : t.key.eval values ra = some (optional datum x))
    (second : t.key.eval values rb = some (optional datum y)) (set : ∀ u, (datum u).isNull = false)
    (order : ∀ u ∈ x, ∀ v ∈ y, (datum u).compare? (datum v) = some (compare u v)) :
    t.compare? values ra rb = some (if t.ascending then compare x y else (compare x y).swap) := by
  have unset : Datum.null.isNull = true := rfl
  simp only [Term.compare?, first, second, Option.bind_eq_bind, Option.bind_some, nulls,
    Option.getD_some]
  -- An unset value is the least in both orders: nulls come first when ascending and last when
  -- descending.
  rcases x with _ | u <;> rcases y with _ | v
  · cases t.ascending <;> rfl
  · simp only [optional, set, unset]
    cases t.ascending <;> rfl
  · simp only [optional, set, unset]
    cases t.ascending <;> rfl
  · simp only [optional, set, order u rfl v rfl, Option.map_some]
    rfl

end

section
variable {values : List Datum} {a b : MissionRun} {c : Column} {ascending : Bool}

theorem eval_key_of_text (text : c.isText = true) {r : MissionRun} {x : Option String}
    (held : c.datum r = optional textDatum x) :
    (OrderTerm.mk c ascending).term.key.eval values (.ofRun r) =
    some (optional (fun s => .text s true) x) := by
  rw [OrderTerm.term, if_pos text, Expr.eval, Column.expr, Expr.eval, Row.lookup_ofRun, held]
  cases x <;> rfl

theorem eval_key_of_not_text (other : c.isText = false) {r : MissionRun} {d : Datum}
    (held : c.datum r = d) :
    (OrderTerm.mk c ascending).term.key.eval values (.ofRun r) = some d := by
  rw [OrderTerm.term, if_neg (by rw [other]; decide), Column.expr, Expr.eval,
    Row.lookup_ofRun, held]

theorem compare?_text (text : c.isText = true) {x y : Option String}
    (first : c.datum a = optional textDatum x) (second : c.datum b = optional textDatum y) :
    (OrderTerm.mk c ascending).term.compare? values (.ofRun a) (.ofRun b) =
      some (if ascending then compare x y else (compare x y).swap) :=
  compare?_optional rfl (eval_key_of_text text first) (eval_key_of_text text second) (fun _ => rfl)
    fun u _ v _ => congrArg some (Text.byteOrder_eq_compare u v)

theorem compare?_time (other : c.isText = false) {x y : Option Instant}
    (first : c.datum a = optional timeDatum x)
    (second : c.datum b = optional timeDatum y) (exact_first : ∀ t ∈ x, t.Exact)
    (exact_second : ∀ t ∈ y, t.Exact) :
    (OrderTerm.mk c ascending).term.compare? values (.ofRun a) (.ofRun b) =
      some (if ascending then compare x y else (compare x y).swap) :=
  compare?_optional rfl (eval_key_of_not_text other first) (eval_key_of_not_text other second)
    (fun _ => rfl)
    fun u hu v hv =>
      congrArg some (Instant.compare_microseconds (exact_first u hu) (exact_second v hv))

theorem compare_natCast (m n : Nat) : compare (m : Int) (n : Int) = compare m n := by
  rcases lt_trichotomy m n with less | rfl | greater
  · rw [compare_lt_iff_lt.mpr less, compare_lt_iff_lt]
    exact Int.ofNat_lt.mpr less
  · rw [compare_eq_iff_eq.mpr rfl, compare_eq_iff_eq.mpr rfl]
  · rw [compare_gt_iff_gt.mpr greater, compare_gt_iff_gt]
    exact Int.ofNat_lt.mpr greater

theorem compare?_number [Ord α] {number : α → Nat} (other : c.isText = false) {x y : Option α}
    (first : c.datum a = optional (fun u => .number (number u)) x)
    (second : c.datum b = optional (fun u => .number (number u)) y)
    (order : ∀ u ∈ x, ∀ v ∈ y, compare (number u) (number v) = compare u v) :
    (OrderTerm.mk c ascending).term.compare? values (.ofRun a) (.ofRun b) =
      some (if ascending then compare x y else (compare x y).swap) :=
  compare?_optional rfl (eval_key_of_not_text other first) (eval_key_of_not_text other second)
    (fun _ => rfl)
    fun u hu v hv => congrArg some ((compare_natCast _ _).trans (order u hu v hv))

theorem compare_duration {d e : UInt64} (hd : d.toNat ≤ maxDuration) (he : e.toNat ≤ maxDuration) :
    compare (min d.toNat maxDuration) (min e.toNat maxDuration) = compare d e := by
  have numbers : compare d.toNat e.toNat = compareOfLessAndEq d.toNat e.toNat := rfl
  have words : compare d e = compareOfLessAndEq d e := rfl
  rw [Nat.min_eq_left hd, Nat.min_eq_left he, numbers, words]
  simp only [compareOfLessAndEq, UInt64.lt_iff_toNat_lt, UInt64.toNat_inj]

theorem compare?_field (f : SortField) (ascending : Bool) (ha : Exact a) (hb : Exact b) :
    (OrderTerm.mk f.column ascending).term.compare? values (.ofRun a) (.ofRun b) =
      some (if ascending then f.order a b else (f.order a b).swap) := by
  -- A time that every run has is an optional one that is set.
  have required {t : Instant} (exact : t.Exact) : ∀ u ∈ some t, u.Exact := by
    rintro u member
    cases member
    exact exact
  cases f with
  | id => exact compare?_text rfl (x := some a.id) (y := some b.id) rfl rfl
  | name => exact compare?_text rfl (x := some a.name) (y := some b.name) rfl rfl
  | status =>
    exact compare?_number (x := some a.status.rank) (y := some b.status.rank) rfl rfl rfl
      fun _ _ _ _ => rfl
  | externalMissionId => exact compare?_text rfl rfl rfl
  | missionId => exact compare?_text rfl rfl rfl
  | description => exact compare?_text rfl rfl rfl
  | statusReason => exact compare?_text rfl rfl rfl
  | comment => exact compare?_text rfl rfl rfl
  | assetCode => exact compare?_text rfl (x := some a.assetCode) (y := some b.assetCode) rfl rfl
  | desiredStartTime =>
    exact compare?_time (x := some a.desiredStartTime) (y := some b.desiredStartTime) rfl rfl rfl
      (required ha.desiredStartTime) (required hb.desiredStartTime)
  | startTime => exact compare?_time rfl rfl rfl ha.startTime hb.startTime
  | endTime => exact compare?_time rfl rfl rfl ha.endTime hb.endTime
  | estimatedDuration =>
    exact compare?_number rfl rfl rfl fun d hd e he =>
      compare_duration (ha.estimatedDuration d hd) (hb.estimatedDuration e he)

theorem compare?_ofKey (k : SortKey) (ha : Exact a) (hb : Exact b) :
    (OrderTerm.ofKey k).term.compare? values (.ofRun a) (.ofRun b) = some (k.order a b) := by
  obtain ⟨field, direction⟩ := k
  cases direction with
  | ascending => exact compare?_field field true ha hb
  | descending => exact compare?_field field false ha hb

theorem compare?_idTerm (values : List Datum) (a b : MissionRun) :
    idTerm.compare? values (.ofRun a) (.ofRun b) = some (compare a.id b.id) :=
  congrArg some (Text.byteOrder_eq_compare a.id b.id)

theorem compareTerms?_order (s : SortSpec) (ha : Exact a) (hb : Exact b) :
    compareTerms? values ((s.keys.map OrderTerm.ofKey).map OrderTerm.term ++ [idTerm]) (.ofRun a)
      (.ofRun b) = some (s.order a b) := by
  obtain ⟨keys⟩ := s
  induction keys with
  | nil =>
    have alone : (compare a.id b.id).then .eq = compare a.id b.id := Ordering.then_eq
    simp only [List.map_nil, List.nil_append, compareTerms?, compare?_idTerm, Option.bind_eq_bind,
      Option.bind_some, alone]
    rfl
  | cons k ks ih =>
    simp only [List.map_cons, List.cons_append, compareTerms?, compare?_ofKey k ha hb,
      Option.bind_eq_bind, Option.bind_some]
    simp only [ih, Option.bind_some]
    rfl

end
end MissionTracking.Sql
