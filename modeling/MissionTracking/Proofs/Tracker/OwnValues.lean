import MissionTracking.Proofs.Listing.Order
import MissionTracking.Proofs.Listing.Parameters
import MissionTracking.Proofs.Listing.Requests
import MissionTracking.Proofs.Run.Validity
import MissionTracking.Proofs.Tracker.Calls

/-!
A created run looked for by its own values. A parameter is read without the white space around it
and the values of a run are compared as they are stored, so that a search finds the run by any of
its texts, but a parameter that a whole value has to equal finds it exactly when the value has no
white space around it.
-/
namespace MissionTracking
open Text

structure Text.IsTidy (s : String) : Prop where
  first : ∀ c ∈ s.toList.head?, isBlank c = false
  last : ∀ c ∈ s.toList.getLast?, isBlank c = false

namespace MissionRun

/-- The one parameter given is a value of the run, to be found in it as a part. -/
inductive Searches (r : MissionRun) : QueryParameters → Prop where
  | name : r.Searches { nameSearch := some r.name }
  | tag {t : MissionTask} {tag : String} (member : t ∈ r.tasks) (held : t.tagId = some tag) :
      r.Searches { tagSearch := some tag }

/-- The one parameter given is a value of the run, to be found in it as a whole. -/
inductive Equates (r : MissionRun) : String → QueryParameters → Prop where
  | assetCode : r.Equates r.assetCode { assetCode := some r.assetCode }
  | robotId (visible : IsVisible r.robot.id) : r.Equates r.robot.id { robotId := some r.robot.id }
  | area {area : Area} (held : r.area = some area) (visible : IsVisible area.name) :
      r.Equates area.name { area := some area.name }

end MissionRun

variable {t : Tracker} {p : QueryParameters} {plan : QueryPlan} {r : MissionRun} {page : PagedRuns}
  {value : String}

theorem Text.isTidy_iff : IsTidy value ↔ trim value.toList = value.toList := by
  rw [eq_comm, ← isCore_iff]
  constructor
  · rintro ⟨first, last⟩
    exact ⟨⟨[], [], by simp, nofun, nofun⟩, first, last⟩
  · rintro ⟨_, first, last⟩
    exact ⟨first, last⟩

theorem trim_within (cs : List Char) : trim cs <:+: cs := by
  obtain ⟨front, back, split, _, _⟩ := (isCore_trim cs).within
  exact ⟨front, back, split.symm⟩

theorem foundIn_trim (cs : List Char) : FoundIn (trim cs) cs :=
  ⟨trim cs, trim_within cs, List.forall₂_same.mpr fun _ _ => .inl rfl⟩

theorem sameText_trim_iff {cs : List Char} : SameText (trim cs) cs ↔ trim cs = cs := by
  constructor
  · intro same
    exact (trim_within cs).eq_of_length (List.Forall₂.length_eq same)
  · intro whole
    rw [whole]
    exact List.forall₂_same.mpr fun _ _ => .inl rfl

theorem trim_ne_nil_of_visible (visible : IsVisible value) : trim value.toList ≠ [] :=
  fun nothing => isBlankText_iff.mp nothing visible

theorem asks_none {holds : List Char → Prop} : Asks none holds := nofun

theorem asks_some_iff {s : String} {holds : List Char → Prop} :
    Asks (some s) holds ↔ (trim s.toList ≠ [] → holds (trim s.toList)) := by
  simp only [Asks, Option.mem_def, Option.some.injEq, forall_eq', isCore_iff, exists_eq_left]

namespace QueryParameters

/-- No bound of a time window is given. -/
def Windowless (p : QueryParameters) : Prop := ∀ w ∈ p.windows, w.min = none ∧ w.max = none

theorem Windowless.admits (windowless : p.Windowless) : ∀ w ∈ p.windows, ∀ time, w.Admits time := by
  intro w member time
  obtain ⟨lower, upper⟩ := windowless w member
  simp [TimeBounds.Admits, lower, upper]

theorem Windowless.ofParameters (windowless : p.Windowless) :
    ∃ f, RunFilter.ofParameters p = .ok f ∧ (f.fits r = true ↔ p.Agrees r) := by
  rcases RunFilter.ofParameters_cases p with ⟨w, _, first, _⟩ | ⟨_, f, made, fits⟩
  · obtain ⟨lower, upper⟩ := windowless w (List.mem_of_find?_eq_some first)
    have faulty : w.Faulty := by simpa using List.find?_some first
    simp [TimeBounds.Faulty, lower, upper] at faulty
  · exact ⟨f, made, fits r⟩

end QueryParameters

namespace MissionRun

theorem windowless_of_own (own : r.Searches p ∨ ∃ value, r.Equates value p) : p.Windowless := by
  rcases own with (_ | _) | ⟨_, _ | _ | _⟩ <;>
    exact List.forall_mem_cons.mpr ⟨⟨rfl, rfl⟩, List.forall_mem_cons.mpr ⟨⟨rfl, rfl⟩,
      List.forall_mem_singleton.mpr ⟨rfl, rfl⟩⟩⟩

theorem agrees_of_searches (own : r.Searches p) : p.Agrees r := by
  have admits := (windowless_of_own (.inl own)).admits
  simp only [QueryParameters.windows, List.forall_mem_cons] at admits
  obtain ⟨start, finish, desired, _⟩ := admits
  rw [QueryParameters.agrees_iff]
  cases own with
  | name => simp [asks_none, asks_some_iff, foundIn_trim, start, finish, desired]
  | @tag t tag member held =>
    have found : ∃ t ∈ r.tasks, ∃ other ∈ t.tagId, FoundIn (trim tag.toList) other.toList :=
      ⟨t, member, tag, held, foundIn_trim _⟩
    simpa [asks_none, asks_some_iff, start, finish, desired] using fun _ => found

theorem agrees_iff_of_equates (coded : IsVisible r.assetCode) (own : r.Equates value p) :
    p.Agrees r ↔ IsTidy value := by
  have admits := (windowless_of_own (.inr ⟨value, own⟩)).admits
  simp only [QueryParameters.windows, List.forall_mem_cons] at admits
  obtain ⟨start, finish, desired, _⟩ := admits
  rw [QueryParameters.agrees_iff, isTidy_iff]
  cases own with
  | assetCode => simp [asks_none, asks_some_iff, trim_ne_nil_of_visible coded, sameText_trim_iff,
    start, finish, desired]
  | robotId visible =>
    simp [asks_none, asks_some_iff, trim_ne_nil_of_visible visible, start, finish, desired]
  | area held visible =>
    simp [asks_none, asks_some_iff, trim_ne_nil_of_visible visible, sameText_trim_iff, held, start,
      finish, desired]

end MissionRun

namespace Tracker

theorem fits_of_listed (answered : (t.list p).answer = .ok page) (member : r ∈ page.items) :
    ∃ f, RunFilter.ofParameters p = .ok f ∧ f.fits r = true := by
  unfold list at answered
  cases prepared : QueryPlan.ofParameters t.limits p with
  | error e =>
    rw [prepared] at answered
    cases answered
  | ok plan =>
    rw [prepared] at answered
    have found : page.items = (plan.query.select t.store.toList plan.page.window).items := by
      obtain ⟨_, _, rfl⟩ := map_ok_iff.mp answered
      rfl
    rw [found] at member
    have matched := List.mem_of_mem_drop (List.mem_of_mem_take member)
    exact ⟨plan.query.filter, (QueryPlan.ofParameters_ok.mp prepared).2.2,
      (RunQuery.mem_matching_iff.mp matched).2⟩

theorem request_of_mem (prepared : QueryPlan.ofParameters t.limits p = .ok plan)
    (bounded : (plan.query.matching t.store.toList).length ≤ (2 ^ 32 - 1) * plan.page.size.toNat)
    (member : r ∈ plan.query.matching t.store.toList) :
    ∃ number page, t.request p number = .ok page ∧ r ∈ page.items := by
  have positive := plan.page.one_le_size
  have count := QueryPlan.pageCount_le bounded
  obtain ⟨i, inside, rfl⟩ := List.mem_iff_getElem.mp member
  obtain ⟨whole, rest, small, rfl⟩ :
      ∃ whole rest, rest < plan.page.size.toNat ∧ i = plan.page.size.toNat * whole + rest :=
    ⟨_, _, Nat.mod_lt i positive, (Nat.div_add_mod i _).symm⟩
  have before : whole < (plan.query.matching t.store.toList).length ⌈/⌉ plan.page.size.toNat := by
    rw [← Nat.not_le, ceilDiv_le_iff_le_mul positive]
    omega
  obtain ⟨number, counted⟩ : ∃ number : UInt32, number.toNat = whole + 1 :=
    ⟨UInt32.ofNat (whole + 1), by rw [UInt32.toNat_ofNat']; omega⟩
  have first : 1 ≤ number.toNat := by omega
  obtain ⟨page, answered, shape⟩ := request_of_le prepared bounded first (by omega)
  have place : page.items[rest]? =
      some (plan.query.matching t.store.toList)[plan.page.size.toNat * whole + rest] := by
    rw [shape.items, counted, List.getElem?_take_of_lt small, List.getElem?_drop,
      Nat.add_sub_cancel, Nat.mul_comm]
    exact List.getElem?_eq_getElem inside
  exact ⟨number, page, answered, List.mem_of_getElem? place⟩

theorem create_ok (created : (t.create r).answer = .ok r) :
    r.validate = .ok () ∧ (t.create r).tracker.limits = t.limits ∧
    r ∈ (t.create r).tracker.store.toList := by
  rcases t.create_cases r with ⟨next, valid, done, stored⟩ | ⟨e, refused⟩
  · rw [stored]
    refine ⟨valid, rfl, (next.mem_toList r).mpr ⟨r.id, ?_⟩⟩
    rw [Store.find?_create done, if_pos rfl]
  · rw [refused] at created
    cases created

/-- A search for one of the texts of a created run fits the run. A parameter that one of its values
has to equal fits it exactly when no white space stands around the value. The listing goes through
the run exactly when the filter fits it, and then one of the pages has it, as long as there are
numbers for all of them. -/
theorem created_found (created : (t.create r).answer = .ok r) :
    (∀ p, r.Searches p → ∃ f, RunFilter.ofParameters p = .ok f ∧ f.fits r = true) ∧
    (∀ value p, r.Equates value p → ∃ f,
      RunFilter.ofParameters p = .ok f ∧ (f.fits r = true ↔ IsTidy value)) ∧
    ∀ p plan, QueryPlan.ofParameters t.limits p = .ok plan →
      (r ∈ plan.query.matching (t.create r).tracker.store.toList ↔
        plan.query.filter.fits r = true) ∧
      ((plan.query.matching (t.create r).tracker.store.toList).length ≤
        (2 ^ 32 - 1) * plan.page.size.toNat →
        ((∃ number page, (t.create r).tracker.request p number = .ok page ∧ r ∈ page.items) ↔
          plan.query.filter.fits r = true)) := by
  obtain ⟨valid, limits, stored⟩ := create_ok created
  have coded :=
    (MissionRun.fault?_eq_none_iff.mp (MissionRun.validate_ok.mp valid)).assetCode_visible
  refine ⟨fun p own => ?_, fun value p own => ?_, fun p plan prepared => ?_⟩
  · obtain ⟨f, made, fits⟩ := (MissionRun.windowless_of_own (.inl own)).ofParameters
    exact ⟨f, made, fits.mpr (MissionRun.agrees_of_searches own)⟩
  · obtain ⟨f, made, fits⟩ := (MissionRun.windowless_of_own (.inr ⟨value, own⟩)).ofParameters
    exact ⟨f, made, fits.trans (MissionRun.agrees_iff_of_equates coded own)⟩
  · rw [← limits] at prepared
    have matched : r ∈ plan.query.matching (t.create r).tracker.store.toList ↔
        plan.query.filter.fits r = true :=
      RunQuery.mem_matching_iff.trans (and_iff_right stored)
    refine ⟨matched, fun bounded =>
      ⟨?_, fun fits => request_of_mem prepared bounded (matched.mpr fits)⟩⟩
    rintro ⟨number, page, answered, member⟩
    obtain ⟨f, made, fits⟩ := fits_of_listed answered member
    have same : RunFilter.ofParameters p = .ok f := made
    cases (QueryPlan.ofParameters_ok.mp prepared).2.2.symm.trans same
    exact fits

def padded : MissionRun :=
  { MissionRun.plain "run" with name := " Deck scan\t", assetCode := " JSV " }

theorem created_found_padded : ∃ number page,
    ((fresh .standard 1 false).create padded).tracker.request { nameSearch := some padded.name }
      number = .ok page ∧ padded ∈ page.items := by
  have created : ((fresh .standard 1 false).create padded).answer = .ok padded := by decide +kernel
  obtain ⟨searched, _, listed⟩ := created_found created
  obtain ⟨f, made, fits⟩ := searched _ .name
  have prepared : QueryPlan.ofParameters PageLimits.standard { nameSearch := some padded.name } =
      .ok ⟨⟨f, .byName⟩, ⟨1, 10, by decide, by decide⟩⟩ :=
    QueryPlan.ofParameters_ok.mpr ⟨rfl, rfl, made⟩
  have single : ((fresh .standard 1 false).create padded).tracker.store.toList.length = 1 := by
    decide +kernel
  have numbered : 1 ≤ (2 ^ 32 - 1) * (10 : UInt32).toNat := by decide
  refine ((listed _ _ prepared).2 ?_).mpr fits
  unfold RunQuery.matching SortSpec.sort
  rw [List.length_mergeSort]
  exact (List.length_filter_le _ _).trans (single.symm ▸ numbered)

/-- The asset code of the run, as a parameter, is compared without the white space that the run
has. -/
theorem created_unfound_padded :
    ¬ ∀ t r, (create t r).answer = .ok r → ∀ value p, r.Equates value p →
    ∃ f, RunFilter.ofParameters p = .ok f ∧ f.fits r = true := by
  intro always
  have created : ((fresh .standard 1 false).create padded).answer = .ok padded := by decide +kernel
  have made :
      RunFilter.ofParameters { assetCode := some padded.assetCode } = .ok ⟨[.assetCode "jsv"]⟩ := by
    decide +kernel
  obtain ⟨f, read, fits⟩ := always _ _ created _ _ .assetCode
  cases made.symm.trans read
  exact absurd fits (by decide +kernel)

end Tracker
end MissionTracking
