import MissionTracking.Proofs.Text.Comparison
import MissionTracking.Query.Filter
import Mathlib.Data.Option.Basic
import Mathlib.Data.Prod.Lex
import Mathlib.Order.Lattice

/-!
What the parameters of a listing ask of a run. Each parameter is read as it was given, with its
white space and in its own case, and asks for one thing; a run has to agree with all of them. The
windows that cannot be met because their bounds are no times, or stand in the wrong order, are
refused.
-/
namespace MissionTracking
open Text

/-- The place of a time in the order of time: a leap second lies after all of the second that it is
added to. -/
def Instant.moment (t : Instant) : ℤ ×ₗ ℕ := toLex (t.second, t.nano)

structure TimeBounds where
  field : String
  min : Option Int64
  max : Option Int64

namespace TimeBounds

def toWindow (w : TimeBounds) : Except ValidationError (Option TimeWindow) :=
  TimeWindow.ofBounds w.field w.min w.max

def Representable (second : Int64) : Prop := minSecond ≤ second.toInt ∧ second.toInt ≤ maxSecond

/-- A bound is no time that can be represented, or the bounds are in the wrong order. -/
def Faulty (w : TimeBounds) : Prop :=
  (∃ second, (w.min = some second ∨ w.max = some second) ∧ ¬ Representable second) ∨
    ∃ lo hi, w.min = some lo ∧ w.max = some hi ∧ hi.toInt < lo.toInt

/-- The time is not set, or lies between the bounds that are given, both included. -/
def Admits (w : TimeBounds) (time : Option Instant) : Prop :=
  ∀ t ∈ time, (∀ lo ∈ w.min, toLex (lo.toInt, 0) ≤ t.moment) ∧
  ∀ hi ∈ w.max, t.moment ≤ toLex (hi.toInt, 0)

end TimeBounds

/-- A text that is given asks for something of what is left of it without the white space around it,
and a blank one for nothing. -/
def Asks (text : Option String) (holds : List Char → Prop) : Prop :=
  ∀ s ∈ text, ∃ core, IsCore core s.toList ∧ (core ≠ [] → holds core)

namespace QueryParameters

def startBounds (p : QueryParameters) : TimeBounds := ⟨"startTime", p.minStartTime, p.maxStartTime⟩

def endBounds (p : QueryParameters) : TimeBounds := ⟨"endTime", p.minEndTime, p.maxEndTime⟩

def desiredStartBounds (p : QueryParameters) : TimeBounds :=
  ⟨"desiredStartTime", p.minDesiredStartTime, p.maxDesiredStartTime⟩

def windows (p : QueryParameters) : List TimeBounds :=
  [p.startBounds, p.endBounds, p.desiredStartBounds]

/-- Every parameter that is given finds what it asks for in the run. -/
@[mk_iff]
structure Agrees (p : QueryParameters) (r : MissionRun) : Prop where
  assetCode : Asks p.assetCode fun code => SameText code r.assetCode.toList
  status : ∀ status ∈ p.status, r.status = status
  robotId : Asks p.robotId fun id => id = r.robot.id.toList
  robotModel : ∀ model ∈ p.robotModel, r.robot.model = model
  area : Asks p.area fun name => ∃ area ∈ r.area, SameText name area.name.toList
  nameSearch : Asks p.nameSearch fun needle => FoundIn needle r.name.toList
  robotNameSearch : Asks p.robotNameSearch fun needle => FoundIn needle r.robot.name.toList
  tagSearch : Asks p.tagSearch fun needle =>
    ∃ t ∈ r.tasks, ∃ tag ∈ t.tagId, FoundIn needle tag.toList
  startTime : p.startBounds.Admits r.startTime
  endTime : p.endBounds.Admits r.endTime
  desiredStartTime : p.desiredStartBounds.Admits (some r.desiredStartTime)

end QueryParameters

theorem Instant.le_iff_moment {a b : Instant} : a ≤ b ↔ a.moment ≤ b.moment := by
  have order :
      a ≤ b ↔ ((compare a.second b.second).then (compare a.nano b.nano)).isLE = true := Iff.rfl
  rw [order, Prod.Lex.le_iff]
  simp only [Instant.moment, ofLex_toLex]
  rcases lt_trichotomy a.second b.second with before | same | behind
  · simp [compare_lt_iff_lt.mpr before, before]
  · simp [same, Nat.isLE_compare]
  · simp [compare_gt_iff_gt.mpr behind, behind.not_gt, behind.ne']

theorem TimeWindow.contains_iff {w : TimeWindow} {t : Instant} :
    w.contains t = true ↔
    (∀ lo ∈ w.min, lo.moment ≤ t.moment) ∧ ∀ hi ∈ w.max, t.moment ≤ hi.moment := by
  obtain ⟨min, max⟩ := w
  cases min <;> cases max <;> simp [TimeWindow.contains, Instant.le_iff_moment]

namespace TimeBounds

theorem bound_cases (field : String) (second : Option Int64) :
    (∃ s, second = some s ∧ ¬ Representable s ∧
      TimeWindow.bound field second = .error (.filterValue field (.notRepresentable s))) ∨
    ((∀ s ∈ second, Representable s) ∧ ∃ bound, TimeWindow.bound field second = .ok bound ∧
      bound.map Instant.moment = second.map fun s => toLex (s.toInt, 0)) := by
  cases second with
  | none => exact .inr ⟨by simp, none, rfl, rfl⟩
  | some s =>
    by_cases inside : Representable s
    · obtain ⟨t, made, moment⟩ :
          ∃ t, Instant.ofSecond? s.toInt = some t ∧ t.moment = toLex (s.toInt, 0) :=
        ⟨_, dif_pos ⟨inside, by decide, fun leap => absurd leap (by decide)⟩, rfl⟩
      refine .inr ⟨by simpa using inside, some t, ?_, by simp [moment]⟩
      simp only [TimeWindow.bound, made]
    · have none_made : Instant.ofSecond? s.toInt = none := dif_neg fun valid => inside valid.1
      exact .inl ⟨s, rfl, inside, by simp only [TimeWindow.bound, none_made]⟩

section Bounds

variable {field : String} {min max : Option Int64} {lower upper : Option Instant}

theorem ofBounds_of_bound (given : (min.isNone && max.isNone) = false)
    (lower_read : TimeWindow.bound field min = .ok lower)
    (upper_read : TimeWindow.bound field max = .ok upper) :
    ((∀ lo ∈ lower, ∀ hi ∈ upper, lo ≤ hi) ∧
      TimeWindow.ofBounds field min max = .ok (some ⟨lower, upper⟩)) ∨
    ∃ lo hi, lower = some lo ∧ upper = some hi ∧ ¬ lo ≤ hi ∧
      TimeWindow.ofBounds field min max = .error (.filterValue field (.inverted lo hi)) := by
  simp only [TimeWindow.ofBounds, given, Bool.false_eq_true, if_false, lower_read, upper_read, bind,
    Except.bind]
  cases lower with
  | none => exact .inl ⟨by simp, rfl⟩
  | some lo =>
    cases upper with
    | none => exact .inl ⟨by simp, rfl⟩
    | some hi =>
      by_cases apart : lo ≤ hi
      · exact .inl ⟨by simpa using apart, if_pos apart⟩
      · exact .inr ⟨lo, hi, rfl, rfl, apart, if_neg apart⟩

variable (lower_moment : lower.map Instant.moment = min.map fun s => toLex (s.toInt, 0))
  (upper_moment : upper.map Instant.moment = max.map fun s => toLex (s.toInt, 0))
include lower_moment upper_moment

theorem crossed_iff : (∃ lo hi, lower = some lo ∧ upper = some hi ∧ ¬ lo ≤ hi) ↔
    ∃ a b, min = some a ∧ max = some b ∧ b.toInt < a.toInt := by
  have order {lo hi : Instant} {a b : Int64} (lo_moment : lo.moment = toLex (a.toInt, 0))
      (hi_moment : hi.moment = toLex (b.toInt, 0)) : lo ≤ hi ↔ a.toInt ≤ b.toInt := by
    rw [Instant.le_iff_moment, lo_moment, hi_moment, Prod.Lex.toLex_le_toLex]
    simp only [le_refl, and_true]
    omega
  constructor
  · rintro ⟨lo, hi, rfl, rfl, crossed⟩
    obtain ⟨a, rfl, lo_moment⟩ := Option.map_eq_some_iff.mp lower_moment.symm
    obtain ⟨b, rfl, hi_moment⟩ := Option.map_eq_some_iff.mp upper_moment.symm
    exact ⟨a, b, rfl, rfl, lt_of_not_ge (mt (order lo_moment.symm hi_moment.symm).mpr crossed)⟩
  · rintro ⟨a, b, rfl, rfl, crossed⟩
    obtain ⟨lo, rfl, lo_moment⟩ := Option.map_eq_some_iff.mp lower_moment
    obtain ⟨hi, rfl, hi_moment⟩ := Option.map_eq_some_iff.mp upper_moment
    exact ⟨lo, hi, rfl, rfl, mt (order lo_moment hi_moment).mp crossed.not_ge⟩

theorem admits_iff (time : Option Instant) : (TimeWindow.mk lower upper).admits time = true ↔
    Admits ⟨field, min, max⟩ time := by
  have means (t : Instant) : (TimeWindow.mk lower upper).contains t = true ↔
      (∀ lo ∈ min, toLex (lo.toInt, 0) ≤ t.moment) ∧
      ∀ hi ∈ max, t.moment ≤ toLex (hi.toInt, 0) := by
    rw [TimeWindow.contains_iff, ← Option.forall_mem_map (p := fun m => m ≤ t.moment), lower_moment,
      ← Option.forall_mem_map (p := fun m => t.moment ≤ m), upper_moment, Option.forall_mem_map,
      Option.forall_mem_map]
  cases time <;> simp [TimeWindow.admits, Admits, means]

end Bounds

theorem toWindow_cases (w : TimeBounds) :
    (w.Faulty ∧ ∃ fault, w.toWindow = .error (.filterValue w.field fault)) ∨
    (¬ w.Faulty ∧ ∃ window, w.toWindow = .ok window ∧
      ∀ time, (∀ v ∈ window, v.admits time = true) ↔ w.Admits time) := by
  obtain ⟨field, min, max⟩ := w
  dsimp only [toWindow]
  rcases bound_cases field min with
    ⟨s, rfl, outside, refused⟩ | ⟨min_inside, lower, lower_read, lower_moment⟩
  · refine .inl ⟨.inl ⟨s, .inl rfl, outside⟩, .notRepresentable s, ?_⟩
    simp only [TimeWindow.ofBounds, Option.isNone_some, Bool.false_and, Bool.false_eq_true,
      if_false, refused]
    rfl
  rcases bound_cases field max with
    ⟨s, rfl, outside, refused⟩ | ⟨max_inside, upper, upper_read, upper_moment⟩
  · refine .inl ⟨.inl ⟨s, .inr rfl, outside⟩, .notRepresentable s, ?_⟩
    simp only [TimeWindow.ofBounds, Option.isNone_some, Bool.and_false, Bool.false_eq_true,
      if_false, lower_read, refused]
    rfl
  have crossed := crossed_iff lower_moment upper_moment
  have faulty_iff :
      Faulty ⟨field, min, max⟩ ↔ ∃ a b, min = some a ∧ max = some b ∧ b.toInt < a.toInt := by
    refine or_iff_right ?_
    rintro ⟨s, held | held, outside⟩
    · exact outside (min_inside s held)
    · exact outside (max_inside s held)
  cases given : min.isNone && max.isNone with
  | true =>
    obtain ⟨rfl, rfl⟩ : min = none ∧ max = none := by simpa using given
    exact .inr ⟨by simp [faulty_iff], none, rfl, fun time => by simp [Admits]⟩
  | false =>
    rcases ofBounds_of_bound given lower_read upper_read with
      ⟨apart, made⟩ | ⟨lo, hi, first, second, inverted, refused⟩
    · refine .inr ⟨?_, _, made, fun time => ?_⟩
      · rw [faulty_iff, ← crossed]
        rintro ⟨lo, hi, first, second, inverted⟩
        exact inverted (apart lo first hi second)
      · simp only [Option.mem_some_iff, forall_eq']
        exact admits_iff lower_moment upper_moment time
    · exact .inl ⟨faulty_iff.mpr (crossed.mp ⟨lo, hi, first, second, inverted⟩),
        .inverted lo hi, refused⟩

end TimeBounds

section Texts

variable {r : MissionRun} {text : Option String} {holds : List Char → Prop}
  {make : String → Predicate}

theorem fits_unlessBlank_iff
    (means : ∀ s, (make (trimmed s)).fits r = true ↔ holds (trim s.toList)) :
    (∀ q ∈ (text.bind unlessBlank).map make, q.fits r = true) ↔ Asks text holds := by
  cases text with
  | none => simp [Asks]
  | some s =>
    simp only [Asks, isCore_iff, Option.mem_def, Option.some.injEq, forall_eq', exists_eq_left,
      Option.bind_some, unlessBlank, IsBlankText]
    by_cases blank : trim s.toList = []
    · simp [blank]
    · simp [blank, means]

theorem fits_normalized_iff
    (means : ∀ s, (make (foldCase (trimmed s))).fits r = true ↔ holds (trim s.toList)) :
    (∀ q ∈ (text.bind normalized).map make, q.fits r = true) ↔ Asks text holds := by
  have folded :
      (text.bind normalized).map make = (text.bind unlessBlank).map fun s => make (foldCase s) := by
    cases text with
    | none => rfl
    | some s => simp only [normalized, Option.bind_some, Option.map_map, Function.comp_def]
  rw [folded]
  exact fits_unlessBlank_iff means

theorem foldCase_trimmed_eq_iff {s t : String} :
    foldCase t = foldCase (trimmed s) ↔ SameText (trim s.toList) t.toList := by
  rw [eq_comm, foldCase_eq_iff, trimmed, String.toList_ofList]

theorem contains_trimmed_iff {s t : String} :
    Text.contains (foldCase t) (foldCase (trimmed s)) = true ↔
    FoundIn (trim s.toList) t.toList := by
  rw [contains_foldCase, trimmed, String.toList_ofList]

end Texts

namespace RunFilter

variable {p : QueryParameters} {start finish desired : Option TimeWindow}

theorem fits_filterMap_iff {conditions : List (Option Predicate)} {r : MissionRun} :
    (RunFilter.mk (conditions.filterMap id)).fits r = true ↔
    ∀ q? ∈ conditions, ∀ q ∈ q?, q.fits r = true := by
  simp only [fits, List.all_eq_true, List.mem_filterMap, id, Option.mem_def]
  exact ⟨fun all q? member q given => all q ⟨q?, member, given⟩,
    fun all q ⟨q?, member, given⟩ => all q? member q given⟩

def conditions (p : QueryParameters) (start finish desired : Option TimeWindow) :
    List (Option Predicate) :=
  [(p.assetCode.bind normalized).map .assetCode, p.status.map .status,
    (p.robotId.bind unlessBlank).map .robotId, p.robotModel.map .robotModel,
    (p.area.bind normalized).map .area, (p.nameSearch.bind normalized).map .nameContains,
    (p.robotNameSearch.bind normalized).map .robotNameContains,
    (p.tagSearch.bind normalized).map .tagContains, start.map .startTime, finish.map .endTime,
    desired.map .desiredStartTime]

theorem ofParameters_eq (p : QueryParameters) : ofParameters p = (do
    let start ← p.startBounds.toWindow
    let finish ← p.endBounds.toWindow
    let desired ← p.desiredStartBounds.toWindow
    .ok ⟨(conditions p start finish desired).filterMap id⟩) := rfl

theorem conditions_fit_iff (r : MissionRun)
    (start_admits : ∀ time, (∀ v ∈ start, v.admits time = true) ↔ p.startBounds.Admits time)
    (end_admits : ∀ time, (∀ v ∈ finish, v.admits time = true) ↔ p.endBounds.Admits time)
    (desired_admits : ∀ time,
      (∀ v ∈ desired, v.admits time = true) ↔ p.desiredStartBounds.Admits time) :
    (RunFilter.mk ((conditions p start finish desired).filterMap id)).fits r = true ↔
    p.Agrees r := by
  rw [fits_filterMap_iff, QueryParameters.agrees_iff]
  simp only [conditions, List.forall_mem_cons, List.not_mem_nil, false_imp_iff,
    implies_true, and_true]
  refine and_congr (fits_normalized_iff fun s => ?assetCode) (and_congr ?status
    (and_congr (fits_unlessBlank_iff fun s => ?robotId) (and_congr ?robotModel
    (and_congr (fits_normalized_iff fun s => ?area)
    (and_congr (fits_normalized_iff fun s => ?name)
    (and_congr (fits_normalized_iff fun s => ?robotName)
    (and_congr (fits_normalized_iff fun s => ?tag)
    (and_congr ?start (and_congr ?finish ?desired)))))))))
  case assetCode => rw [Predicate.fits, beq_iff_eq, foldCase_trimmed_eq_iff]
  case status => simp [Predicate.fits]
  case robotId =>
    rw [Predicate.fits, beq_iff_eq, trimmed, ← String.toList_inj, String.toList_ofList, eq_comm]
  case robotModel => simp [Predicate.fits]
  case area => simp [Predicate.fits, Option.any_eq_true, foldCase_trimmed_eq_iff]
  case name => rw [Predicate.fits, contains_trimmed_iff]
  case robotName => rw [Predicate.fits, contains_trimmed_iff]
  case tag =>
    simp only [Predicate.fits, List.any_eq_true, MissionRun.tags, List.mem_filterMap,
      contains_trimmed_iff]
    exact ⟨fun ⟨tag, ⟨t, task, held⟩, found⟩ => ⟨t, task, tag, held, found⟩,
      fun ⟨t, task, tag, held, found⟩ => ⟨tag, ⟨t, task, held⟩, found⟩⟩
  case start => exact Option.forall_mem_map.trans (start_admits r.startTime)
  case finish => exact Option.forall_mem_map.trans (end_admits r.endTime)
  case desired => exact Option.forall_mem_map.trans (desired_admits (some r.desiredStartTime))

open Classical in
/-- The first window that is faulty is the one that is named. -/
theorem ofParameters_cases (p : QueryParameters) :
    (∃ w fault, p.windows.find? (fun w => w.Faulty) = some w ∧
      ofParameters p = .error (.filterValue w.field fault)) ∨
    ((∀ w ∈ p.windows, ¬ w.Faulty) ∧
      ∃ f, ofParameters p = .ok f ∧ ∀ r, f.fits r = true ↔ p.Agrees r) := by
  rw [ofParameters_eq]
  rcases p.startBounds.toWindow_cases with
    ⟨faulty, fault, refused⟩ | ⟨sound, start, starts, start_admits⟩
  · refine .inl ⟨p.startBounds, fault, by simp [QueryParameters.windows, faulty], ?_⟩
    rw [refused]
    rfl
  rcases p.endBounds.toWindow_cases with
    ⟨faulty, fault, refused⟩ | ⟨sound', finish, ends, end_admits⟩
  · refine .inl ⟨p.endBounds, fault, by simp [QueryParameters.windows, sound, faulty], ?_⟩
    rw [starts, refused]
    rfl
  rcases p.desiredStartBounds.toWindow_cases with
    ⟨faulty, fault, refused⟩ | ⟨sound'', desired, desires, desired_admits⟩
  · refine .inl ⟨p.desiredStartBounds, fault,
      by simp [QueryParameters.windows, sound, sound', faulty], ?_⟩
    rw [starts, ends, refused]
    rfl
  · refine .inr ⟨by simp [QueryParameters.windows, sound, sound', sound''], _, ?_,
      fun r => conditions_fit_iff r start_admits end_admits desired_admits⟩
    rw [starts, ends, desires]
    rfl

theorem fits_iff_agrees {p : QueryParameters} {f : RunFilter} (made : ofParameters p = .ok f)
    {r : MissionRun} : f.fits r = true ↔ p.Agrees r := by
  rcases ofParameters_cases p with ⟨_, _, _, refused⟩ | ⟨_, g, made', fits⟩
  · cases refused.symm.trans made
  · cases made'.symm.trans made
    exact fits r

/-- Parameters are refused exactly when a window is faulty, the first such window is named, and
otherwise they select the runs that agree with all of them. -/
theorem ofParameters_agrees (p : QueryParameters) :
    ((∃ e, ofParameters p = .error e) ↔ ∃ w ∈ p.windows, w.Faulty) ∧
    (∀ before w after, p.windows = before ++ w :: after → w.Faulty → (∀ v ∈ before, ¬ v.Faulty) →
      ∃ fault, ofParameters p = .error (.filterValue w.field fault)) ∧
    ∀ f, ofParameters p = .ok f → ∀ r, f.fits r = true ↔ p.Agrees r := by
  classical
  rcases ofParameters_cases p with ⟨w, fault, first, refused⟩ | ⟨sound, f, made, fits⟩
  · refine ⟨⟨fun _ => ⟨w, List.mem_of_find?_eq_some first, ?_⟩, fun _ => ⟨_, refused⟩⟩, ?_, ?_⟩
    · simpa using List.find?_some first
    · intro before v after split faulty sound
      have named : p.windows.find? (fun w => w.Faulty) = some v :=
        List.find?_eq_some_iff_append.mpr
          ⟨by simpa using faulty, before, after, split, by simpa using sound⟩
      obtain rfl : w = v := Option.some.inj (first.symm.trans named)
      exact ⟨fault, refused⟩
    · intro f made
      cases refused.symm.trans made
  · refine ⟨⟨?_, fun ⟨w, member, faulty⟩ => absurd faulty (sound w member)⟩, ?_, ?_⟩
    · rintro ⟨e, refused⟩
      cases made.symm.trans refused
    · intro before w after split faulty _
      exact absurd faulty (sound w (by simp [split]))
    · intro g made'
      obtain rfl : f = g := Except.ok.inj (made.symm.trans made')
      exact fits

def crossedEnd : QueryParameters :=
  { minStartTime := some 0, minEndTime := some 1, maxEndTime := some 0,
    maxDesiredStartTime := some Int64.maxValue }

theorem ofParameters_agrees_crossedEnd :
    ∃ fault, ofParameters crossedEnd = .error (.filterValue "endTime" fault) := by
  have orderly : ¬ crossedEnd.startBounds.Faulty := by
    rintro (⟨second, held | held, outside⟩ | ⟨_, _, _, held, _⟩)
    · cases held
      exact outside (by unfold TimeBounds.Representable; decide)
    · cases held
    · cases held
  exact (ofParameters_agrees crossedEnd).2.1 [crossedEnd.startBounds] crossedEnd.endBounds
    [crossedEnd.desiredStartBounds] rfl (.inr ⟨1, 0, rfl, rfl, by decide⟩) (by simpa using orderly)

end RunFilter
end MissionTracking
