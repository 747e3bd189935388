import MissionTracking.Proofs.Ingestion.Missions
import MissionTracking.Proofs.Run.Unambiguous
import MissionTracking.Tracker.Runs

/-!
Sequences of calls of a tracker: runs created, deleted and given external ids, and events of the
controller. Whatever the calls are asked for and whether or not they are refused, the stored runs
stay unambiguous and the store coherent, and a stored run loses nothing that it is found by until it
is deleted.
-/
namespace MissionTracking

inductive TrackerCall where
  | create (run : MissionRun)
  | delete (id : String)
  | assign (id : String) (assignment : Assignment)
  | event (event : StatusEvent)
deriving DecidableEq

/-- The tracker after a call. A call that is refused leaves it as it was. -/
def Tracker.after (t : Tracker) : TrackerCall → Tracker
  | .create r => (t.create r).tracker
  | .delete id => (t.delete id).tracker
  | .assign id a => (t.assign id a).tracker
  | .event e => (t.handle e).tracker

namespace MissionRun
variable {r : MissionRun}

theorem handle_retains (r : MissionRun) (e : StatusEvent) : r.Retains (r.handle e).1 := by
  rcases r.handle_fst e with same | ⟨report, _, made⟩
  · rw [same]
    exact .refl r
  · rw [made]
    exact r.after_retains report

theorem Unambiguous.handle (h : r.Unambiguous) (e : StatusEvent) : (r.handle e).1.Unambiguous := by
  rcases r.handle_fst e with same | ⟨report, _, made⟩
  · rwa [same]
  · rw [made]
    exact h.after report

end MissionRun

/-- A store in which external ids lead to one run, one task and one inspection. -/
structure Store.Unambiguous (s : Store) : Prop where
  coherent : s.Coherent
  runs : ∀ {id : String} {r : MissionRun}, s.find? id = some r → r.Unambiguous

namespace Store.Unambiguous
variable {s next : Store}

theorem empty : Unambiguous .empty where
  coherent := .empty
  runs found := by simp [find?, Store.empty] at found

theorem written (h : s.Unambiguous) (coherent : next.Coherent) {id : String} {r : MissionRun}
    (sound : r.Unambiguous)
    (lookups : ∀ q, next.find? q = if id = q then some r else s.find? q) : next.Unambiguous where
  coherent := coherent
  runs {q run} found := by
    rw [lookups] at found
    split at found
    · cases found
      exact sound
    · exact h.runs found

theorem create (h : s.Unambiguous) {r : MissionRun} (valid : r.validate = .ok ())
    (done : s.create r = .ok next) : next.Unambiguous :=
  h.written (h.coherent.create done) (MissionRun.unambiguous_of_validate valid) (find?_create done)

theorem delete (h : s.Unambiguous) {id : String} {r : MissionRun}
    (done : s.delete id = some (next, r)) : next.Unambiguous where
  coherent := h.coherent.delete done
  runs {q run} found := by
    rw [find?_delete done] at found
    split at found
    · cases found
    · exact h.runs found

theorem assign (h : s.Unambiguous) {id : String} {a : Assignment} {changed : MissionRun}
    (done : s.assign id a = .ok (some (next, changed))) : next.Unambiguous := by
  obtain ⟨r, found, applied, _, _⟩ := assign_ok done
  exact h.written (h.coherent.assign done) ((h.runs found).applied applied) (find?_assign done)

theorem receive (h : s.Unambiguous) (e : StatusEvent) : (s.receive e).1.Unambiguous where
  coherent := h.coherent.receive e
  runs {id r} found := by
    rw [h.coherent.find?_receive] at found
    obtain ⟨before, stored, heard⟩ := Option.map_eq_some_iff.mp found
    split at heard
    · rw [← heard]
      exact (h.runs stored).handle e
    · rw [← heard]
      exact h.runs stored

end Store.Unambiguous

namespace Tracker

theorem create_cases (t : Tracker) (r : MissionRun) :
    (∃ next, r.validate = .ok () ∧ t.store.create r = .ok next ∧
      t.create r = ⟨.ok r, { t with store := next }, [.created r]⟩) ∨
    ∃ e, t.create r = t.reply (.error (.validation e)) := by
  unfold create
  cases valid : r.validate with
  | error e => exact .inr ⟨e, rfl⟩
  | ok =>
    cases done : t.store.create r with
    | error e => exact .inr ⟨e, rfl⟩
    | ok next => exact .inl ⟨next, rfl, rfl, rfl⟩

theorem after_cases (t : Tracker) (c : TrackerCall) :
    (t.after c).store = t.store ∨
    (∃ r, c = .create r ∧ r.validate = .ok () ∧ t.store.create r = .ok (t.after c).store) ∨
    (∃ id r, c = .delete id ∧ t.store.delete id = some ((t.after c).store, r)) ∨
    (∃ id a r, c = .assign id a ∧ t.store.assign id a = .ok (some ((t.after c).store, r))) ∨
    ∃ e, c = .event e ∧ (t.after c).store = (t.store.receive e).1 := by
  cases c with
  | create r =>
    rcases t.create_cases r with ⟨next, valid, done, stored⟩ | ⟨e, refused⟩
    · refine .inr (.inl ⟨r, rfl, valid, ?_⟩)
      simp only [after, stored, done]
    · refine .inl ?_
      simp only [after, refused, reply]
  | delete id =>
    cases done : t.store.delete id with
    | none =>
      refine .inl ?_
      simp only [after, delete, done, reply]
    | some removed =>
      refine .inr (.inr (.inl ⟨id, removed.2, rfl, ?_⟩))
      simp only [after, delete, done]
  | assign id a =>
    rcases done : t.store.assign id a with e | _ | ⟨next, r⟩
    · refine .inl ?_
      simp only [after, assign, done, reply]
    · refine .inl ?_
      simp only [after, assign, done, reply]
    · refine .inr (.inr (.inr (.inl ⟨id, a, r, rfl, ?_⟩)))
      simp only [after, assign, done]
  | event e => exact .inr (.inr (.inr (.inr ⟨e, rfl, handle_serves.store t e⟩)))

theorem unambiguous_after {t : Tracker} (h : t.store.Unambiguous) (c : TrackerCall) :
    (t.after c).store.Unambiguous := by
  rcases t.after_cases c with
    same | ⟨_, _, valid, done⟩ | ⟨_, _, _, done⟩ | ⟨_, _, _, _, done⟩ | ⟨e, _, done⟩
  · rwa [same]
  · exact h.create valid done
  · exact h.delete done
  · exact h.assign done
  · rw [done]
    exact h.receive e

/-- What one call can do to a stored run that it does not delete: nothing, an assignment to it, or
an event of its mission. -/
theorem find?_after_cases {t : Tracker} (h : t.store.Coherent) {id : String} {r : MissionRun}
    (found : t.store.find? id = some r) {c : TrackerCall} (other : c ≠ .delete id) :
    (t.after c).store.find? id = some r ∨
    (∃ a changed,
      c = .assign id a ∧ a.applied r = .ok changed ∧ (t.after c).store.find? id = some changed) ∨
    ∃ e, c = .event e ∧ r.externalMissionId = some e.externalMissionId ∧
      (t.after c).store.find? id = some (r.handle e).1 := by
  rcases t.after_cases c with
    same | ⟨q, _, _, done⟩ | ⟨q, _, rfl, done⟩ | ⟨q, a, changed, rfl, done⟩ | ⟨e, rfl, done⟩
  · exact .inl (by rw [same, found])
  · have elsewhere : q.id ≠ id := by
      rintro rfl
      cases found.symm.trans (Store.create_ok done).1
    exact .inl (by rw [Store.find?_create done, if_neg elsewhere, found])
  · have elsewhere : q ≠ id := by
      rintro rfl
      exact other rfl
    exact .inl (by rw [Store.find?_delete done, if_neg elsewhere, found])
  · by_cases here : q = id
    · subst here
      obtain ⟨before, stored, applied, _, _⟩ := Store.assign_ok done
      cases found.symm.trans stored
      exact .inr (.inl ⟨a, changed, rfl, applied, by rw [Store.find?_assign done, if_pos rfl]⟩)
    · exact .inl (by rw [Store.find?_assign done, if_neg here, found])
  · have heard : (t.after (.event e)).store.find? id =
        some (if r.externalMissionId = some e.externalMissionId then (r.handle e).1 else r) := by
      rw [done, h.find?_receive, found, Option.map_some]
    by_cases own : r.externalMissionId = some e.externalMissionId
    · exact .inr (.inr ⟨e, rfl, own, by rw [heard, if_pos own]⟩)
    · exact .inl (by rw [heard, if_neg own])

theorem retains_after {t : Tracker} (h : t.store.Coherent) {id : String} {r : MissionRun}
    (found : t.store.find? id = some r) {c : TrackerCall} (other : c ≠ .delete id) :
    ∃ changed, (t.after c).store.find? id = some changed ∧ r.Retains changed := by
  rcases find?_after_cases h found other with
    same | ⟨a, changed, _, applied, stored⟩ | ⟨e, _, _, stored⟩
  · exact ⟨r, same, .refl r⟩
  · exact ⟨changed, stored, Assignment.applied_retains applied⟩
  · exact ⟨_, stored, r.handle_retains e⟩

theorem unambiguous_foldl {t : Tracker} (h : t.store.Unambiguous) (calls : List TrackerCall) :
    (calls.foldl after t).store.Unambiguous := by
  induction calls generalizing t with
  | nil => exact h
  | cons c calls ih => exact ih (unambiguous_after h c)

theorem retains_foldl {t : Tracker} (h : t.store.Unambiguous) {id : String} {r : MissionRun}
    (found : t.store.find? id = some r) {calls : List TrackerCall}
    (others : ∀ c ∈ calls, c ≠ .delete id) :
    ∃ changed, (calls.foldl after t).store.find? id = some changed ∧ r.Retains changed := by
  induction calls generalizing t r with
  | nil => exact ⟨r, found, .refl r⟩
  | cons c calls ih =>
    have ⟨first, rest⟩ := List.forall_mem_cons.mp others
    obtain ⟨between, found', kept⟩ := retains_after h.coherent found first
    obtain ⟨changed, last, kept'⟩ := ih (unambiguous_after h c) found' rest
    exact ⟨changed, last, kept.trans kept'⟩

end Tracker
end MissionTracking
