import MissionTracking.Proofs.Run.Composing
import MissionTracking.Proofs.Store.Naming
import MissionTracking.Proofs.Tracker.Resolution

/-!
Runs that are created without external ids and named later. Until it is assigned to or deleted, such
a run stays as it was created, whatever else is called: no event can name it. It can then be given a
name in every slot, and reports that carry the names reach the slots, as long as no two inspections
of one task have one id; creation does not look at these ids, and a run in which two are equal
cannot be named.
-/
namespace MissionTracking.Tracker

theorem find?_after_of_unnamed {t : Tracker} (h : t.store.Coherent) {id : String} {r : MissionRun}
    (found : t.store.find? id = some r) (unnamed : r.externalMissionId = none) {c : TrackerCall}
    (undeleted : c ≠ .delete id) (unassigned : ∀ a, c ≠ .assign id a) :
    (t.after c).store.find? id = some r := by
  rcases find?_after_cases h found undeleted with same | ⟨a, _, assigned, _⟩ | ⟨e, _, own, _⟩
  · exact same
  · exact absurd assigned (unassigned a)
  · cases unnamed.symm.trans own

theorem find?_foldl_of_unnamed {t : Tracker} (h : t.store.Unambiguous) {id : String}
    {r : MissionRun} (found : t.store.find? id = some r) (unnamed : r.externalMissionId = none)
    {calls : List TrackerCall} (others : ∀ c ∈ calls, c ≠ .delete id ∧ ∀ a, c ≠ .assign id a) :
    (calls.foldl after t).store.find? id = some r := by
  induction calls generalizing t with
  | nil => exact found
  | cons c calls ih =>
    have ⟨⟨undeleted, unassigned⟩, rest⟩ := List.forall_mem_cons.mp others
    exact ih (unambiguous_after h c)
      (find?_after_of_unnamed h.coherent found unnamed undeleted unassigned) rest

theorem find?_created_of_unnamed {t : Tracker} (h : t.store.Unambiguous) {r : MissionRun}
    (created : (t.create r).answer = .ok r) (unnamed : r.externalMissionId = none)
    {later : List TrackerCall} (others : ∀ c ∈ later, c ≠ .delete r.id ∧ ∀ a, c ≠ .assign r.id a) :
    (later.foldl after (t.create r).tracker).store.Unambiguous ∧
      (later.foldl after (t.create r).tracker).store.find? r.id = some r := by
  have stored := unambiguous_after h (.create r)
  have here : (t.create r).tracker.store.find? r.id = some r := by
    rcases create_cases t r with ⟨next, _, done, made⟩ | ⟨e, refused⟩
    · rw [made, Store.find?_create done, if_pos rfl]
    · rw [refused] at created
      cases created
  exact ⟨unambiguous_foldl stored later, find?_foldl_of_unnamed stored here unnamed others⟩

theorem handle_step {t : Tracker} (h : t.store.Unambiguous) {id m x y word : String}
    {r : MissionRun} {j k : Nat} {status : InspectionStatus} (found : t.store.find? id = some r)
    (mission : r.externalIdAt .mission = some m)
    (task : r.externalIdAt (.task j) = some x) (step : r.externalIdAt (.step j k) = some y)
    (read : Vocabulary.stepStatus word = .ok status) :
    ∃ (i : Fin r.tasks.length) (l : Fin (r.tasks.get i).inspections.length), i.val = j ∧ l.val = k ∧
      (t.handle (.step m x y word)).answer = .ok (.applied (r.applyStepStatus i l status).2) ∧
      (t.handle (.step m x y word)).tracker.store =
      t.store.put id (r.applyStepStatus i l status).1 := by
  obtain ⟨i, l, here, here', received⟩ := (h.runs found).receive_step task step
  have report : StatusReport.ofEvent (.step m x y word) = .ok (.step x y status) := by
    rw [StatusReport.ofEvent, read, Except.map]
  have handled : r.handle (.step m x y word) =
      ((r.applyStepStatus i l status).1, .ok (.applied (r.applyStepStatus i l status).2)) := by
    simp only [MissionRun.handle, report, received]
  have resolved : t.store.resolve? (StatusEvent.step m x y word).externalMissionId = some (id, r) :=
    h.coherent.resolve?_eq_some_iff.mpr ⟨found, mission⟩
  refine ⟨i, l, here, here', ?_, ?_⟩
  · rw [handle_serves.answer, Store.receive_answer resolved, handled]
  · rw [handle_serves.store, Store.receive_store h.coherent resolved, handled]

theorem assign_ok {t : Tracker} {id : String} {a : Assignment} {next : Store} {r : MissionRun}
    (done : t.store.assign id a = .ok (some (next, r))) :
    t.assign id a = ⟨.ok r, { t with store := next }, [.assigned r]⟩ := by
  simp only [assign, done]

theorem assign_error {t : Tracker} {id : String} {a : Assignment} {fault : ValidationError}
    (refused : t.store.assign id a = .error fault) :
    t.assign id a = t.reply (.error (.validation fault)) := by
  simp only [assign, refused]

/-- A run that was created without external ids and not assigned to since, a name for each of its
slots, and no other run with the name of the mission. When the ids of the inspections of each task
differ, the run is given all of the names and keeps the rest, and a report that carries three of
them writes the inspection at their place and nothing else. When two inspections of a task share an
id, the assignment is refused: the one inspection that their id leads to has the name of the one and
is asked to take the name of the other. -/
theorem created_named (limits : PageLimits) (capacity : Nat) (publishes : Bool)
    (before later : List TrackerCall) {r : MissionRun} {names : IdSlot → String} {t : Tracker}
    (created : ((before.foldl after (fresh limits capacity publishes)).create r).answer = .ok r)
    (others : ∀ c ∈ later, c ≠ .delete r.id ∧ ∀ a, c ≠ .assign r.id a)
    (reached : later.foldl after
      ((before.foldl after (fresh limits capacity publishes)).create r).tracker = t)
    (unnamed : r.IsUnnamed) (apart : r.NamesApart names)
    (free : ∀ run ∈ t.store.toList, run.id ≠ r.id → run.externalMissionId ≠ some (names .mission)) :
    ((∀ u ∈ r.tasks, (u.inspections.map Inspection.id).Nodup) →
      ∃ named next, (t.assign r.id (r.naming names)).answer = .ok named ∧
        (t.assign r.id (r.naming names)).tracker = next ∧ next.store.find? r.id = some named ∧
        named = r.withIds (fun slot => some (names slot)) ∧
        (∀ slot, r.HasSlot slot → named.externalIdAt slot = some (names slot)) ∧
        ∀ j k word status, r.HasSlot (.step j k) → Vocabulary.stepStatus word = .ok status →
          ∀ e : StatusEvent, e = .step (names .mission) (names (.task j)) (names (.step j k)) word →
            ∃ (i : Fin named.tasks.length) (l : Fin (named.tasks.get i).inspections.length),
            i.val = j ∧ l.val = k ∧
              (next.handle e).answer = .ok (.applied (named.applyStepStatus i l status).2) ∧
              (next.handle e).tracker.store =
              next.store.put r.id (named.applyStepStatus i l status).1) ∧
    (¬ (∀ u ∈ r.tasks, (u.inspections.map Inspection.id).Nodup) →
      ∃ j k l, r.Twins j k l ∧ t.assign r.id (r.naming names) =
        t.reply (.error (.validation
          (.externalIdAssigned .inspection (names (.step j k)) (names (.step j l)))))) := by
  have start := unambiguous_foldl (fresh_unambiguous limits capacity publishes) before
  obtain ⟨h, found⟩ := find?_created_of_unnamed start created unnamed.mission others
  rw [reached] at h found
  have ordered := (h.runs found).ordered
  constructor
  · intro distinct
    obtain ⟨named, made⟩ : ∃ named, named = r.withIds fun slot => some (names slot) := ⟨_, rfl⟩
    have applied : (r.naming names).applied r = .ok named :=
      made ▸ MissionRun.applied_naming ordered unnamed apart distinct
    have held : ∀ slot, r.HasSlot slot → named.externalIdAt slot = some (names slot) := by
      intro slot has
      rw [made]
      exact MissionRun.held_withIds_iff.mpr ⟨has, rfl⟩
    have untaken : ∀ e, named.externalMissionId = some e → t.store.isTaken r.id e = false := by
      intro e own
      cases (held .mission trivial).symm.trans own
      refine h.coherent.isTaken_eq_false_iff.mpr fun q run stored carried => ?_
      by_contra other
      cases h.coherent.keyed stored
      exact free run ((h.coherent.mem_toList_iff run).mpr stored) other carried
    have done := Store.assign_ok_of_free found applied untaken
    obtain ⟨next, last⟩ : ∃ next, (t.assign r.id (r.naming names)).tracker = next := ⟨_, rfl⟩
    have sound : next.store.Unambiguous :=
      last ▸ unambiguous_after h (.assign r.id (r.naming names))
    have stored : next.store.find? r.id = some named := by
      rw [← last, assign_ok done, Store.find?_put, if_pos rfl]
    refine ⟨named, next, by rw [assign_ok done], last, stored, made, held, ?_⟩
    rintro j k word status has read _ rfl
    have ⟨u, _, place, _⟩ := has
    exact handle_step sound stored (held .mission trivial) (held (.task j) ⟨u, place⟩)
      (held _ has) read
  · intro shared
    obtain ⟨j, k, l, twins, refused⟩ :=
      MissionRun.applied_naming_of_shared ordered unnamed apart shared
    exact ⟨j, k, l, twins, assign_error (Store.assign_error_of_applied found refused)⟩

def deckNames : IdSlot → String
  | .mission => "deck"
  | .task 0 => "valves"
  | .task _ => "pumps"
  | .step _ 0 => "photo"
  | .step _ _ => "detail"

/-- Another run is stored before, and before the run is named its mission is reported on in vain. -/
theorem created_named_unnamedPair :
    ∃ t named next, [TrackerCall.event (.mission "deck" "in_progress")].foldl after
        (([TrackerCall.create (MissionRun.plain "other")].foldl after
          (fresh .standard 1 false)).create
          Assignment.unnamedPair).tracker = t ∧
      (t.assign "run" (Assignment.unnamedPair.naming deckNames)).answer = .ok named ∧
      (t.assign "run" (Assignment.unnamedPair.naming deckNames)).tracker = next ∧
      named.externalIdAt (.task 1) = some "pumps" ∧ named.externalIdAt (.step 0 1) = some "detail" ∧
      ∃ (i : Fin named.tasks.length) (l : Fin (named.tasks.get i).inspections.length),
      i.val = 0 ∧ l.val = 1 ∧
        (next.handle (.step "deck" "valves" "detail" "successful")).answer =
          .ok (.applied (named.applyStepStatus i l .successful).2) := by
  have unnamed : Assignment.unnamedPair.IsUnnamed := ⟨rfl, by decide, by decide⟩
  have apart : Assignment.unnamedPair.NamesApart deckNames := ⟨by decide, by decide⟩
  have step : Assignment.unnamedPair.HasSlot (.step 0 1) := ⟨_, _, rfl, rfl⟩
  obtain ⟨named, next, answer, last, _, _, held, reached⟩ :=
    (created_named .standard 1 false [.create (MissionRun.plain "other")]
      [.event (.mission "deck" "in_progress")]
      (by decide +kernel) (by simp) rfl unnamed apart (by decide +kernel)).1 (by decide)
  obtain ⟨i, l, here, here', heard, _⟩ := reached 0 1 "successful" .successful step rfl _ rfl
  exact ⟨_, named, next, rfl, answer, last, held (.task 1) ⟨_, rfl⟩, held (.step 0 1) step, i, l,
    here, here', heard⟩

def twinChecks : MissionRun :=
  (MissionRun.plain "run").withTask (((MissionTask.fresh "task" 1).withInspection
    (Inspection.fresh "inspection" .image)).withInspection (Inspection.fresh "inspection" .video))

/-- Creation accepts the two inspections, and the second cannot be named. -/
theorem created_unnamed_twinChecks :
    ¬ ∀ (before : List TrackerCall) (r : MissionRun) (names : IdSlot → String) (t : Tracker),
    ((before.foldl after (fresh .standard 1 false)).create r).answer = .ok r →
    ((before.foldl after (fresh .standard 1 false)).create r).tracker = t → r.IsUnnamed →
    r.NamesApart names →
    (∀ run ∈ t.store.toList, run.id ≠ r.id → run.externalMissionId ≠ some (names .mission)) →
    ∃ named, (t.assign r.id (r.naming names)).answer = .ok named := by
  intro always
  have unnamed : twinChecks.IsUnnamed := ⟨rfl, by decide, by decide⟩
  have apart : twinChecks.NamesApart deckNames := ⟨by decide, by decide⟩
  obtain ⟨named, accepted⟩ :=
    always [] twinChecks deckNames _ (by decide +kernel) rfl unnamed apart (by decide +kernel)
  have refused : (((fresh .standard 1 false).create twinChecks).tracker.assign "run"
      (twinChecks.naming deckNames)).answer =
        .error (.validation (.externalIdAssigned .inspection "photo" "detail")) := by decide +kernel
  cases accepted.symm.trans refused

end MissionTracking.Tracker
