import MissionTracking.Proofs.Listing.Order
import MissionTracking.Proofs.Listing.StableSort
import MissionTracking.Proofs.Text.ByteOrder

/-!
Listings sorted in rounds. An order of several keys is what a stable sort by id and one by each key
leave, the last key first. What a round compares is said on its own: texts by their bytes, statuses
by their place in the lifecycle, times by second and part of the second, durations as numbers, and
an unset value before all others.
-/
namespace MissionTracking
open Std Text

inductive SortValue where
  | text (s : String)
  | status (s : MissionStatus)
  | time (t : Instant)
  | duration (d : UInt64)
deriving DecidableEq

namespace SortValue

/-- Values of two kinds never meet in one field. -/
def order : SortValue → SortValue → Ordering
  | .text s, .text t => byteOrder s t
  | .status s, .status t => compare (MissionStatus.all.idxOf s) (MissionStatus.all.idxOf t)
  | .time t, .time u => (compare t.second u.second).then (compare t.nano u.nano)
  | .duration d, .duration e => compare d.toNat e.toNat
  | _, _ => .eq

def optionalOrder : Option SortValue → Option SortValue → Ordering
  | none, none => .eq
  | none, some _ => .lt
  | some _, none => .gt
  | some v, some w => v.order w

end SortValue

def SortField.value? (f : SortField) (r : MissionRun) : Option SortValue :=
  match f with
  | .id => some (.text r.id)
  | .name => some (.text r.name)
  | .status => some (.status r.status)
  | .externalMissionId => r.externalMissionId.map .text
  | .missionId => r.missionId.map .text
  | .description => r.description.map .text
  | .statusReason => r.statusReason.map .text
  | .comment => r.comment.map .text
  | .assetCode => some (.text r.assetCode)
  | .desiredStartTime => some (.time r.desiredStartTime)
  | .startTime => r.startTime.map .time
  | .endTime => r.endTime.map .time
  | .estimatedDuration => r.estimatedDuration.map .duration

namespace SortKey

/-- The comparison of the round of a key. -/
def round (k : SortKey) (a b : MissionRun) : Ordering :=
  match k.direction with
  | .ascending => SortValue.optionalOrder (k.field.value? a) (k.field.value? b)
  | .descending => SortValue.optionalOrder (k.field.value? b) (k.field.value? a)

/-- The runs without a value stand before the others in ascending order and after them in descending
order. -/
def SetsApart (k : SortKey) (runs : List MissionRun) : Prop :=
  ∃ unset others, (∀ r ∈ unset, k.field.value? r = none) ∧ (∀ r ∈ others, k.field.value? r ≠ none) ∧
    match k.direction with
    | .ascending => runs = unset ++ others
    | .descending => runs = others ++ unset

end SortKey

def MissionRun.idOrder (a b : MissionRun) : Ordering := byteOrder a.id b.id

/-- The runs sorted by id and then by each key, the last key first. -/
inductive Rounds (runs : List MissionRun) : List SortKey → List MissionRun → Prop where
  | byId {out : List MissionRun}
      (sorted : IsStableSort MissionRun.idOrder runs out) : Rounds runs [] out
  | byKey {k : SortKey} {ks : List SortKey} {between out : List MissionRun}
      (rounds : Rounds runs ks between)
      (sorted : IsStableSort k.round between out) : Rounds runs (k :: ks) out

/-- Two runs that no key and no id tells apart. -/
def MissionRun.Alike (keys : List SortKey) (a b : MissionRun) : Prop :=
  a.id = b.id ∧ ∀ k ∈ keys, k.field.value? a = k.field.value? b

instance (keys : List SortKey) (a b : MissionRun) : Decidable (a.Alike keys b) :=
  inferInstanceAs (Decidable (_ ∧ _))

section Values

variable [Ord α] {make : α → SortValue}

theorem optionalOrder_map (agree : ∀ u v, (make u).order (make v) = compare u v) (x y : Option α) :
    SortValue.optionalOrder (x.map make) (y.map make) = compare x y := by
  cases x with
  | none => cases y <;> rfl
  | some u =>
    cases y with
    | none => rfl
    | some v => exact agree u v

theorem compare_eq_iff_map_eq [LawfulEqOrd α] (injective : Function.Injective make)
    {x y : Option α} : compare x y = .eq ↔ x.map make = y.map make := by
  rw [LawfulEqOrd.compare_eq_iff_eq, (Option.map_injective injective).eq_iff]

end Values

instance : LawfulEqOrd Instant where
  eq_of_compare {t u} tie := by
    obtain ⟨seconds, nanos⟩ := Ordering.then_eq_eq.mp tie
    cases t
    cases u
    cases LawfulEqOrd.eq_of_compare seconds
    cases LawfulEqOrd.eq_of_compare nanos
    rfl

namespace MissionStatus

theorem rank_eq_idxOf (s : MissionStatus) : s.rank = all.idxOf s := by
  cases s <;> rfl

theorem rank_inj {s t : MissionStatus} : s.rank = t.rank ↔ s = t := by
  cases s <;> cases t <;> decide

instance : Ord MissionStatus := ⟨fun s t => compare s.rank t.rank⟩

instance : LawfulEqOrd MissionStatus where
  compare_self := Nat.compare_eq_eq.mpr rfl
  eq_of_compare tie := rank_inj.mp (Nat.compare_eq_eq.mp tie)

end MissionStatus

namespace SortField

structure Holds [Ord α] (f : SortField) (held : MissionRun → Option α)
    (make : α → SortValue) : Prop where
  value : f.value? = fun r => (held r).map make
  order : f.order = fun a b => compare (held a) (held b)
  agree : ∀ u v, (make u).order (make v) = compare u v
  injective : Function.Injective make

theorem exists_holds (f : SortField) :
    ∃ (α : Type) (_ : Ord α) (_ : LawfulEqOrd α) (held : MissionRun → Option α)
      (make : α → SortValue), f.Holds held make := by
  have numbers (d e : UInt64) : (SortValue.duration d).order (.duration e) = compare d e :=
    (UInt64.compare_eq_toNat_compare_toNat d e).symm
  have ranks (s t : MissionStatus) : (SortValue.status s).order (.status t) = compare s t := by
    rw [SortValue.order, ← MissionStatus.rank_eq_idxOf, ← MissionStatus.rank_eq_idxOf]
    rfl
  have texts {g : SortField} (held : MissionRun → Option String)
    (value : g.value? = fun r => (held r).map .text)
      (order : g.order = fun a b => compare (held a) (held b)) : g.Holds held .text :=
    ⟨value, order, byteOrder_eq_compare, fun _ _ => SortValue.text.inj⟩
  have times {g : SortField} (held : MissionRun → Option Instant)
    (value : g.value? = fun r => (held r).map .time)
      (order : g.order = fun a b => compare (held a) (held b)) : g.Holds held .time :=
    ⟨value, order, fun _ _ => rfl, fun _ _ => SortValue.time.inj⟩
  cases f with
  | id => exact ⟨_, _, inferInstance, _, _, texts (fun r => some r.id) rfl rfl⟩
  | name => exact ⟨_, _, inferInstance, _, _, texts (fun r => some r.name) rfl rfl⟩
  | status =>
    exact ⟨_, _, inferInstance, fun r => some r.status, _, rfl, rfl, ranks,
      fun _ _ => SortValue.status.inj⟩
  | externalMissionId => exact ⟨_, _, inferInstance, _, _, texts _ rfl rfl⟩
  | missionId => exact ⟨_, _, inferInstance, _, _, texts _ rfl rfl⟩
  | description => exact ⟨_, _, inferInstance, _, _, texts _ rfl rfl⟩
  | statusReason => exact ⟨_, _, inferInstance, _, _, texts _ rfl rfl⟩
  | comment => exact ⟨_, _, inferInstance, _, _, texts _ rfl rfl⟩
  | assetCode => exact ⟨_, _, inferInstance, _, _, texts (fun r => some r.assetCode) rfl rfl⟩
  | desiredStartTime =>
    exact ⟨_, _, inferInstance, _, _, times (fun r => some r.desiredStartTime) rfl rfl⟩
  | startTime => exact ⟨_, _, inferInstance, _, _, times _ rfl rfl⟩
  | endTime => exact ⟨_, _, inferInstance, _, _, times _ rfl rfl⟩
  | estimatedDuration =>
    exact ⟨_, _, inferInstance, _, _, rfl, rfl, numbers, fun _ _ => SortValue.duration.inj⟩

theorem order_eq (f : SortField) (a b : MissionRun) :
    f.order a b = SortValue.optionalOrder (f.value? a) (f.value? b) := by
  obtain ⟨_, _, _, held, make, holds⟩ := f.exists_holds
  rw [holds.order, holds.value]
  exact (optionalOrder_map holds.agree _ _).symm

theorem order_eq_eq_iff {f : SortField} {a b : MissionRun} :
    f.order a b = .eq ↔ f.value? a = f.value? b := by
  obtain ⟨_, _, _, held, make, holds⟩ := f.exists_holds
  rw [holds.order, holds.value]
  exact compare_eq_iff_map_eq holds.injective

end SortField

namespace SortKey
variable {k : SortKey} {a b : MissionRun}

theorem order_eq_round (k : SortKey) : k.order = k.round := by
  obtain ⟨field, direction⟩ := k
  funext a b
  cases direction with
  | ascending => exact field.order_eq a b
  | descending =>
    have swapped : field.order b a = (field.order a b).swap := OrientedCmp.eq_swap
    exact swapped.symm.trans (field.order_eq b a)

theorem order_eq_eq_iff : k.order a b = .eq ↔ k.field.value? a = k.field.value? b := by
  obtain ⟨field, direction⟩ := k
  cases direction with
  | ascending => exact SortField.order_eq_eq_iff
  | descending => exact Ordering.swap_eq_eq.trans SortField.order_eq_eq_iff

instance : TransCmp k.round := k.order_eq_round ▸ inferInstance

end SortKey

theorem SortSpec.order_nil : (SortSpec.mk []).order = MissionRun.idOrder := by
  funext a b
  exact (byteOrder_eq_compare a.id b.id).symm

instance : TransCmp MissionRun.idOrder := SortSpec.order_nil ▸ inferInstance

theorem isStableSort_of_rounds {runs out : List MissionRun} {keys : List SortKey}
    (rounds : Rounds runs keys out) : IsStableSort (SortSpec.mk keys).order runs out := by
  induction rounds with
  | byId sorted => rwa [SortSpec.order_nil]
  | byKey _ sorted ih =>
    rw [SortSpec.order_cons, SortKey.order_eq_round]
    exact ih.compose sorted

theorem exists_rounds (runs : List MissionRun) (keys : List SortKey) :
    ∃ out, Rounds runs keys out := by
  induction keys with
  | nil => exact ⟨_, .byId (isStableSort_mergeSort runs)⟩
  | cons k ks ih =>
    obtain ⟨between, rounds⟩ := ih
    exact ⟨_, .byKey rounds (isStableSort_mergeSort between)⟩

theorem exists_parts_of_pairwise {p : α → Prop} {as : List α}
    (before : as.Pairwise fun a b => p b → p a) :
    ∃ front back, as = front ++ back ∧ (∀ a ∈ front, p a) ∧ ∀ a ∈ back, ¬ p a := by
  induction as with
  | nil => exact ⟨[], [], rfl, nofun, nofun⟩
  | cons a as ih =>
    obtain ⟨first, later⟩ := List.pairwise_cons.mp before
    by_cases holds : p a
    · obtain ⟨front, back, rfl, kind, other⟩ := ih later
      exact ⟨a :: front, back, rfl, List.forall_mem_cons.mpr ⟨holds, kind⟩, other⟩
    · exact ⟨[], a :: as, rfl, nofun,
        List.forall_mem_cons.mpr ⟨holds, fun b member => mt (first b member) holds⟩⟩

theorem SortKey.setsApart_of_sorted {k : SortKey} {runs : List MissionRun}
    (sorted : runs.Pairwise fun a b => (k.round a b).isLE = true) : k.SetsApart runs := by
  obtain ⟨field, direction⟩ := k
  cases direction with
  | ascending =>
    have before : runs.Pairwise fun a b => field.value? b = none → field.value? a = none := by
      refine sorted.imp fun {a b} ordered unset => ?_
      dsimp only [round] at ordered
      rw [unset] at ordered
      cases held : field.value? a with
      | none => rfl
      | some v => rw [held] at ordered; cases ordered
    obtain ⟨unset, others, split, none, set⟩ := exists_parts_of_pairwise before
    exact ⟨unset, others, none, set, split⟩
  | descending =>
    have before : runs.Pairwise fun a b => field.value? b ≠ none → field.value? a ≠ none := by
      refine sorted.imp fun {a b} ordered set unset => ?_
      dsimp only [round] at ordered
      rw [unset] at ordered
      cases held : field.value? b with
      | none => exact set held
      | some v => rw [held] at ordered; cases ordered
    obtain ⟨others, unset, split, set, none⟩ := exists_parts_of_pairwise before
    exact ⟨unset, others, fun r member => not_not.mp (none r member), set, split⟩

namespace SortSpec

theorem order_eq_eq_iff {s : SortSpec} {a b : MissionRun} :
    s.order a b = .eq ↔ a.Alike s.keys b := by
  obtain ⟨keys⟩ := s
  induction keys with
  | nil =>
    have ids : (SortSpec.mk []).order a b = .eq ↔ a.id = b.id := LawfulEqOrd.compare_eq_iff_eq
    simp only [ids, MissionRun.Alike, List.not_mem_nil, false_imp_iff, implies_true, and_true]
  | cons k ks ih =>
    rw [order_cons, compareLex, Ordering.then_eq_eq, ih, SortKey.order_eq_eq_iff]
    simp only [MissionRun.Alike, List.forall_mem_cons]
    tauto

theorem sort_stable (s : SortSpec) (runs : List MissionRun) :
    IsStableSort s.order runs (s.sort runs) :=
  isStableSort_mergeSort runs

theorem sort_eq_iff_rounds {s : SortSpec} {runs out : List MissionRun} :
    s.sort runs = out ↔ Rounds runs s.keys out := by
  constructor
  · rintro rfl
    obtain ⟨out, rounds⟩ := exists_rounds runs s.keys
    rwa [(s.sort_stable runs).unique (isStableSort_of_rounds rounds)]
  · intro rounds
    exact (s.sort_stable runs).unique (isStableSort_of_rounds rounds)

/-- Sorting by several keys, alone or in a query, is sorting in rounds. The first key sets the runs
without a value apart, and runs that are alike stay in the order in which they were given. -/
theorem sort_in_rounds (s : SortSpec) (runs : List MissionRun) :
    (∀ out, s.sort runs = out ↔ Rounds runs s.keys out) ∧
    (∀ (filter : RunFilter) (window : PageWindow), ∃ found,
      Rounds (runs.filter filter.fits) s.keys found ∧
      RunQuery.select ⟨filter, s⟩ runs window =
        ⟨(found.drop window.offset.toNat).take window.limit.toNat, UInt64.ofNat found.length⟩) ∧
    (∀ k ks, s.keys = k :: ks → k.SetsApart (s.sort runs)) ∧
    ∀ a : MissionRun,
    ((s.sort runs).filter fun b => a.Alike s.keys b) = runs.filter fun b => a.Alike s.keys b := by
  refine ⟨fun out => sort_eq_iff_rounds, ?_, ?_, ?_⟩
  · intro filter window
    exact ⟨RunQuery.matching ⟨filter, s⟩ runs, sort_eq_iff_rounds.mp rfl, rfl⟩
  · intro k ks keys
    have rounds := sort_eq_iff_rounds.mp (rfl : s.sort runs = s.sort runs)
    rw [keys] at rounds
    cases rounds with
    | byKey _ sorted => exact SortKey.setsApart_of_sorted sorted.sorted
  · intro a
    have ties (b : MissionRun) : decide (a.Alike s.keys b) = (s.order a b == .eq) := by
      rw [Bool.eq_iff_iff, decide_eq_true_iff, beq_iff_eq, order_eq_eq_iff]
    simp only [ties]
    exact (s.sort_stable runs).stable a

end SortSpec
end MissionTracking
