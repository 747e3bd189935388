import MissionTracking.Proofs.Store.Calls
import MissionTracking.Tracker.Reports

/-!
Events applied to a run that is at hand, without a store, and what a store makes of the same events.
A store hands an event to the run that carries its mission and keeps what the run makes of it; it
keeps everything else as it was.
-/
namespace MissionTracking

namespace MissionRun

/-- An event of its mission applied to a run. An event that leads nowhere leaves the run as it
was. -/
def handle (r : MissionRun) (e : StatusEvent) : MissionRun × Except TrackingError Outcome :=
  match StatusReport.ofEvent e with
  | .error error => (r, .error error)
  | .ok report =>
    match r.receive report with
    | .ok (changed, transition) => (changed, .ok (.applied transition))
    | .error miss => (r, .ok (.notFound (.ofMiss e.externalMissionId report miss)))

theorem handle_fst (r : MissionRun) (e : StatusEvent) :
    (r.handle e).1 = r ∨ ∃ report, StatusReport.ofEvent e = .ok report ∧
    (r.handle e).1 = r.after report := by
  unfold handle
  cases read : StatusReport.ofEvent e with
  | error error => exact .inl rfl
  | ok report =>
    refine .inr ⟨report, rfl, ?_⟩
    unfold after
    cases received : r.receive report with
    | error miss => simp only [received]
    | ok pair => simp only [received]

@[simp] theorem handle_externalMissionId (r : MissionRun) (e : StatusEvent) :
    (r.handle e).1.externalMissionId = r.externalMissionId := by
  rcases r.handle_fst e with same | ⟨report, _, made⟩
  · rw [same]
  · rw [made, after_externalMissionId]

end MissionRun

def StatusEvent.unclaimed (e : StatusEvent) : Except TrackingError Outcome :=
  (StatusReport.ofEvent e).map fun _ => .notFound (.mission e.externalMissionId)

namespace Store

/-- An event handled by a store. An event that is refused leaves the store as it was. -/
def receive (s : Store) (e : StatusEvent) : Store × Except TrackingError Outcome :=
  match s.handle e with
  | .ok (next, outcome) => (next, .ok outcome)
  | .error error => (s, .error error)

def carrier? (s : Store) (m : String) : Option MissionRun := (s.resolve? m).map Prod.snd

variable {s : Store}

theorem carrier?_eq_bind (s : Store) (m : String) : s.carrier? m = s.index[m]?.bind s.find? := by
  unfold carrier? resolve?
  cases s.index[m]? with
  | none => rfl
  | some id =>
    simp only [Option.bind_eq_bind, Option.bind_some]
    cases s.find? id <;> rfl

theorem receive_cases (s : Store) (e : StatusEvent) :
    (s.receive e).1 = s ∨ ∃ report : StatusReport,
      (s.receive e).1 =
      (s.perform (.mutate e.externalMissionId (report.amendment e.externalMissionId))).1 := by
  unfold receive handle
  cases StatusReport.ofEvent e with
  | error error => exact .inl rfl
  | ok report =>
    refine .inr ⟨report, ?_⟩
    simp only [Except.map, ingest, perform, StoreOperations.perform, operations,
      StatusReport.amendment]
    cases s.mutate e.externalMissionId (report.mutation e.externalMissionId) <;> rfl

theorem Coherent.receive (h : s.Coherent) (e : StatusEvent) : (s.receive e).1.Coherent := by
  rcases s.receive_cases e with same | ⟨report, called⟩
  · rwa [same]
  · rw [called]
    exact h.perform _

theorem Reachable.receive (reachable : s.Reachable) (e : StatusEvent) :
    (s.receive e).1.Reachable := by
  rcases s.receive_cases e with same | ⟨report, called⟩
  · rwa [same]
  · rw [called]
    exact reachable.call _

theorem receive_of_unresolved {e : StatusEvent} (missing : s.resolve? e.externalMissionId = none) :
    s.receive e = (s, e.unclaimed) := by
  unfold receive handle StatusEvent.unclaimed
  cases StatusReport.ofEvent e with
  | error error => rfl
  | ok report => simp only [Except.map, ingest, mutate, missing, Option.map_none]

theorem receive_answer {e : StatusEvent} {id : String} {r : MissionRun}
    (resolved : s.resolve? e.externalMissionId = some (id, r)) :
    (s.receive e).2 = (r.handle e).2 := by
  unfold receive handle MissionRun.handle
  cases StatusReport.ofEvent e with
  | error error => rfl
  | ok report =>
    simp only [Except.map, ingest, mutate, resolved, Option.map_some, StatusReport.mutation]
    cases r.receive report with
    | error miss => rfl
    | ok pair => rfl

theorem put_stored {id : String} {r : MissionRun} (found : s.find? id = some r) :
    s.put id r = s := by
  refine eq_of_lookups (fun q => ?_) fun e => rfl
  rw [find?_put]
  split
  · rename_i here
    rw [← here, found]
  · rfl

theorem indexRun_indexed {r : MissionRun}
    (entry : ∀ e, r.externalMissionId = some e → s.index[e]? = some r.id) : s.indexRun r = s := by
  refine eq_of_lookups (s.find?_indexRun r) fun e => ?_
  rw [index_indexRun]
  split
  · rename_i held
    exact (entry e held).symm
  · rfl

theorem receive_store (h : s.Coherent) {e : StatusEvent} {id : String} {r : MissionRun}
    (resolved : s.resolve? e.externalMissionId = some (id, r)) :
    (s.receive e).1 = s.put id (r.handle e).1 := by
  have found := resolve?_find resolved
  unfold receive handle MissionRun.handle
  cases StatusReport.ofEvent e with
  | error error => exact (put_stored found).symm
  | ok report =>
    simp only [Except.map, ingest, mutate, resolved, Option.map_some, StatusReport.mutation]
    cases received : r.receive report with
    | error miss => exact (put_stored found).symm
    | ok pair =>
      obtain ⟨changed, transition⟩ := pair
      have made := MissionRun.after_of_receive received
      have entry : ∀ f, changed.externalMissionId = some f → s.index[f]? = some changed.id := by
        intro f held
        rw [← made, MissionRun.after_externalMissionId] at held
        rw [← made, MissionRun.after_id, h.keyed found]
        exact h.indexed.mpr ⟨r, found, held⟩
      simp only [indexRun_unindexRun, indexRun_indexed entry]

namespace Coherent

theorem carrier?_eq_some_iff (h : s.Coherent) {m : String} {r : MissionRun} :
    s.carrier? m = some r ↔ s.find? r.id = some r ∧ r.externalMissionId = some m := by
  unfold carrier?
  constructor
  · intro carried
    obtain ⟨⟨id, q⟩, resolved, rfl⟩ := Option.map_eq_some_iff.mp carried
    obtain ⟨found, held⟩ := h.resolve?_eq_some_iff.mp resolved
    have keyed := h.keyed found
    dsimp only
    exact ⟨keyed ▸ found, held⟩
  · intro stored
    rw [h.resolve?_eq_some_iff.mpr stored, Option.map_some]

/-- Each stored run, before and after an event: the run of the mission handled it, and the others
did not see it. -/
theorem find?_receive (h : s.Coherent) (e : StatusEvent) (id : String) :
    (s.receive e).1.find? id = (s.find? id).map fun r =>
      if r.externalMissionId = some e.externalMissionId then (r.handle e).1 else r := by
  cases resolved : s.resolve? e.externalMissionId with
  | none =>
    rw [receive_of_unresolved resolved]
    cases found : s.find? id with
    | none => rfl
    | some r => rw [Option.map_some, if_neg (h.resolve?_eq_none_iff.mp resolved id r found)]
  | some pair =>
    obtain ⟨owner, q⟩ := pair
    obtain ⟨stored, held⟩ := h.resolve?_eq_some_iff.mp resolved
    rw [receive_store h resolved, find?_put]
    by_cases here : owner = id
    · subst here
      rw [if_pos rfl, stored, Option.map_some, if_pos held]
    · rw [if_neg here]
      cases found : s.find? id with
      | none => rfl
      | some r =>
        have other : r.externalMissionId ≠ some e.externalMissionId := by
          intro held'
          exact here (h.carrier_unique stored found held held')
        rw [Option.map_some, if_neg other]

theorem index_receive (h : s.Coherent) (e : StatusEvent) : (s.receive e).1.index = s.index := by
  cases resolved : s.resolve? e.externalMissionId with
  | none => rw [receive_of_unresolved resolved]
  | some pair => rw [receive_store h resolved, index_put]

theorem carrier?_receive (h : s.Coherent) (e : StatusEvent) (m : String) :
    (s.receive e).1.carrier? m = (s.carrier? m).map fun r =>
      if r.externalMissionId = some e.externalMissionId then (r.handle e).1 else r := by
  rw [carrier?_eq_bind, carrier?_eq_bind, h.index_receive, Option.map_bind]
  congr 1
  funext id
  exact h.find?_receive e id

end Coherent
end Store
end MissionTracking
