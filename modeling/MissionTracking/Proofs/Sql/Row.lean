import MissionTracking.Proofs.Sql.Evaluation
import MissionTracking.Run.Wire
import MissionTracking.Proofs.Listing.Order

/-!
The row that holds a run: the document of the run, and a column for each of its attributes that
filters and orders look at, null where the attribute is unset. Times are held in microseconds and
durations in words of 63 bits, so that some runs are not held exactly; times that are compare in the
row as they do in the run.
-/
namespace MissionTracking

namespace Instant

def microseconds (t : Instant) : Int := t.second * 1000000 + (t.nano / 1000 : Nat)

def ofMicroseconds? (n : Int) : Option Instant :=
  ofParts? (n / 1000000) ((n % 1000000).toNat * 1000)

/-- The time is in whole microseconds and not in a leap second: it can be read back from its
microseconds. -/
def Exact (t : Instant) : Prop := ofMicroseconds? t.microseconds = some t

instance (t : Instant) : Decidable t.Exact := inferInstanceAs (Decidable (_ = _))

theorem ofParts?_eq_some {second : Int} {nano : Nat} {t : Instant}
    (made : ofParts? second nano = some t) : t.second = second ∧ t.nano = nano := by
  unfold ofParts? at made
  split at made
  · cases made
    exact ⟨rfl, rfl⟩
  · cases made

theorem ofParts?_self (t : Instant) : ofParts? t.second t.nano = some t := by
  rw [ofParts?, dif_pos ⟨t.inRange, t.nano_lt, t.leap⟩]

theorem exact_iff {t : Instant} : t.Exact ↔ t.nano < nanosPerSecond ∧ t.nano % 1000 = 0 := by
  unfold Exact ofMicroseconds? microseconds
  constructor
  · intro exact
    obtain ⟨_, nano⟩ := ofParts?_eq_some exact
    unfold nanosPerSecond
    omega
  · rintro ⟨below, whole⟩
    unfold nanosPerSecond at below
    have second : (t.second * 1000000 + (t.nano / 1000 : Nat)) / 1000000 = t.second := by omega
    have nano : ((t.second * 1000000 + (t.nano / 1000 : Nat)) % 1000000).toNat * 1000 = t.nano := by
      omega
    rw [second, nano, ofParts?_self]

theorem exact_of_ofSecond? {second : Int} {t : Instant} (made : ofSecond? second = some t) :
    t.Exact := by
  obtain ⟨_, nano⟩ := ofParts?_eq_some made
  rw [exact_iff, nano]
  decide

theorem compare_microseconds {a b : Instant} (ha : a.Exact) (hb : b.Exact) :
    compare a.microseconds b.microseconds = compare a b := by
  obtain ⟨a_below, a_whole⟩ := exact_iff.mp ha
  obtain ⟨b_below, b_whole⟩ := exact_iff.mp hb
  unfold nanosPerSecond at a_below b_below
  have order : compare a b = (compare a.second b.second).then (compare a.nano b.nano) := rfl
  unfold microseconds
  rw [order]
  -- The second decides, and within one second the nanoseconds, of which whole thousands are left.
  rcases lt_trichotomy a.second b.second with before | same | behind
  · rw [compare_lt_iff_lt.mpr before]
    exact compare_lt_iff_lt.mpr (by omega)
  · rw [same, compare_eq_iff_eq.mpr rfl, Ordering.then]
    rcases lt_trichotomy a.nano b.nano with less | equal | greater
    · rw [compare_lt_iff_lt.mpr less, compare_lt_iff_lt]
      omega
    · rw [equal, compare_eq_iff_eq.mpr rfl, compare_eq_iff_eq.mpr rfl]
    · rw [compare_gt_iff_gt.mpr greater, compare_gt_iff_gt]
      omega
  · rw [compare_gt_iff_gt.mpr behind]
    exact compare_gt_iff_gt.mpr (by omega)

end Instant

namespace Sql

def maxDuration : Nat := 9223372036854775807

def Value.datum : Value → Datum
  | .text s => .text s false
  | .time t => .time t.microseconds
  | .number n => .number n.toInt

def textDatum (s : String) : Datum := .text s false

def timeDatum (t : Instant) : Datum := .time t.microseconds

def optional (datum : α → Datum) : Option α → Datum
  | none => .null
  | some a => datum a

namespace Column

def all : List Column :=
  [.id, .externalMissionId, .missionId, .name, .status, .statusRank, .description, .statusReason,
    .comment, .assetCode, .areaName, .robotId, .robotName, .robotModelType, .desiredStartTime,
    .startTime, .endTime, .estimatedDuration, .payload]

def datum (r : MissionRun) : Column → Datum
  | .id => textDatum r.id
  | .externalMissionId => optional textDatum r.externalMissionId
  | .missionId => optional textDatum r.missionId
  | .name => textDatum r.name
  | .status => textDatum r.status.text
  | .statusRank => .number r.status.rank
  | .description => optional textDatum r.description
  | .statusReason => optional textDatum r.statusReason
  | .comment => optional textDatum r.comment
  | .assetCode => textDatum r.assetCode
  | .areaName => optional (fun area : Area => textDatum area.name) r.area
  | .robotId => textDatum r.robot.id
  | .robotName => textDatum r.robot.name
  | .robotModelType => textDatum r.robot.model.name
  | .desiredStartTime => timeDatum r.desiredStartTime
  | .startTime => optional timeDatum r.startTime
  | .endTime => optional timeDatum r.endTime
  | .estimatedDuration =>
    optional (fun d : UInt64 => .number (min d.toNat maxDuration : Nat)) r.estimatedDuration
  | .payload => .document r.toJson

end Column

def Row.ofRun (r : MissionRun) : Row := Column.all.map fun c => (c.text, c.datum r)

theorem Row.lookup_ofRun (r : MissionRun) (c : Column) :
    (Row.ofRun r).lookup c.text = some (c.datum r) := by
  cases c <;> rfl

/-- A row can hold the run exactly. -/
structure Exact (r : MissionRun) : Prop where
  desiredStartTime : r.desiredStartTime.Exact
  startTime : ∀ t ∈ r.startTime, t.Exact
  endTime : ∀ t ∈ r.endTime, t.Exact
  estimatedDuration : ∀ d ∈ r.estimatedDuration, d.toNat ≤ maxDuration

instance (r : MissionRun) : Decidable (Exact r) :=
  decidable_of_iff
    (r.desiredStartTime.Exact ∧ (∀ t ∈ r.startTime, t.Exact) ∧ (∀ t ∈ r.endTime, t.Exact) ∧
      r.estimatedDuration.all (fun d => d.toNat ≤ maxDuration) = true)
    ⟨fun ⟨desired, start, finish, small⟩ =>
        ⟨desired, start, finish, by simpa [Option.all_eq_true] using small⟩,
      fun ⟨desired, start, finish, small⟩ =>
        ⟨desired, start, finish, by simpa [Option.all_eq_true] using small⟩⟩

end Sql
end MissionTracking
