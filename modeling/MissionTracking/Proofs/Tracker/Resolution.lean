import MissionTracking.Proofs.Tracker.Calls

/-!
What external ids lead to, over whole sequences of calls. In every store that is reached they lead
to one place at most, and the place that a held id leads to stays the same until its run is deleted.
-/
namespace MissionTracking

/-- Three external ids and the place of an inspection that they lead to. -/
def Store.IsAt (s : Store) (mission task step id : String) (j k : Nat) : Prop :=
  ∃ r, s.find? id = some r ∧ r.externalIdAt .mission = some mission ∧
  r.externalIdAt (.task j) = some task ∧
    r.externalIdAt (.step j k) = some step

namespace MissionRun.Unambiguous
variable {r : MissionRun}

theorem eq_of_findTask? (h : r.Unambiguous) {x : String} {i : Fin r.tasks.length}
    (found : r.findTask? x = some i) {j : Nat} {t : MissionTask} (place : r.tasks[j]? = some t)
    (id : t.externalTaskId = some x) : j = i := by
  obtain ⟨a, rfl, found'⟩ := h.findTask?_of_held (Option.bind_eq_some_iff.mpr ⟨t, place, id⟩)
  cases found.symm.trans found'
  rfl

theorem receive_recovery (h : r.Unambiguous) {x : String} {i : Fin r.tasks.length}
    (found : r.findTask? x = some i) (idle : r.status ≠ .ongoing) :
    ∃ changed transition, r.receive (.task x .inProgress) = .ok (changed, transition) ∧
      ∀ (j : Nat) (t : MissionTask), r.tasks[j]? = some t → changed.tasks[j]? =
        some (if i.val = j then { t with status := .inProgress }
          else if i.val < j then t.reset else t) := by
  refine ⟨_, (r.applyTaskStatus i .inProgress).2, ?_,
    fun j t place => h.getElem?_recovery i idle place⟩
  simp only [receive, found]

theorem receive_task (h : r.Unambiguous) {j : Nat} {x : String}
    (held : r.externalIdAt (.task j) = some x) :
    ∃ i : Fin r.tasks.length, i.val = j ∧
      ∀ status, r.receive (.task x status) = .ok (r.applyTaskStatus i status) := by
  obtain ⟨i, here, found⟩ := h.findTask?_of_held held
  refine ⟨i, here, fun status => ?_⟩
  simp only [receive, found]

theorem receive_step (h : r.Unambiguous) {j k : Nat} {x y : String}
    (task : r.externalIdAt (.task j) = some x) (step : r.externalIdAt (.step j k) = some y) :
    ∃ (i : Fin r.tasks.length) (l : Fin (r.tasks.get i).inspections.length), i.val = j ∧ l.val = k ∧
      ∀ status, r.receive (.step x y status) = .ok (r.applyStepStatus i l status) := by
  obtain ⟨i, rfl, found⟩ := h.findTask?_of_held task
  obtain ⟨l, here, found'⟩ := h.findStep?_of_held step
  have resolved : r.tasks[i].findStep? y = some l := found'
  refine ⟨i, l, rfl, here, fun status => ?_⟩
  simp only [receive, found, resolved]

end MissionRun.Unambiguous

namespace Store.Unambiguous
variable {s : Store}

theorem isAt_unique (h : s.Unambiguous) {m x y id id' : String} {j j' k k' : Nat}
    (here : s.IsAt m x y id j k) (there : s.IsAt m x y id' j' k') : id = id' ∧ j = j' ∧ k = k' := by
  obtain ⟨r, found, mission, task, step⟩ := here
  obtain ⟨r', found', mission', task', step'⟩ := there
  have run := h.coherent.carrier_unique found found' mission mission'
  subst run
  cases found.symm.trans found'
  have position := (h.runs found).task_unique task task'
  subst position
  exact ⟨rfl, rfl, (h.runs found).step_unique step step'⟩

end Store.Unambiguous

namespace Tracker

theorem fresh_unambiguous (limits : PageLimits) (capacity : Nat) (publishes : Bool) :
    (fresh limits capacity publishes).store.Unambiguous := .empty

/-- Whatever calls a new tracker served: in each stored run the orders increase with the positions
and no external id is repeated, no external mission id is repeated among the runs, three external
ids lead to one inspection at most, the first task that carries an id is the only one, and a
recovery starts over the tasks at later positions and no others. -/
theorem unambiguous_after_calls (limits : PageLimits) (capacity : Nat) (publishes : Bool)
    (calls : List TrackerCall) :
    ∃ s, (calls.foldl after (fresh limits capacity publishes)).store = s ∧
      (∀ r ∈ s.toList,
        (r.tasks.Pairwise fun a b => a.taskOrder < b.taskOrder) ∧
        (r.tasks.filterMap MissionTask.externalTaskId).Nodup ∧
        ∀ t ∈ r.tasks, (t.inspections.filterMap Inspection.externalStepId).Nodup) ∧
      (s.toList.filterMap MissionRun.externalMissionId).Nodup ∧
      (∀ m x y id id' j j' k k',
        s.IsAt m x y id j k → s.IsAt m x y id' j' k' → id = id' ∧ j = j' ∧ k = k') ∧
      ∀ r ∈ s.toList, ∀ x i, r.findTask? x = some i →
        (∀ (j : Nat) (t : MissionTask), r.tasks[j]? = some t → t.externalTaskId = some x → j = i) ∧
        (r.status ≠ .ongoing → ∃ changed transition,
          r.receive (.task x .inProgress) = .ok (changed, transition) ∧
          ∀ (j : Nat) (t : MissionTask), r.tasks[j]? = some t → changed.tasks[j]? =
            some (if i.val = j then { t with status := .inProgress }
              else if i.val < j then t.reset else t)) := by
  have h := unambiguous_foldl (fresh_unambiguous limits capacity publishes) calls
  have runs {r : MissionRun}
    (listed : r ∈ (calls.foldl after (fresh limits capacity publishes)).store.toList) :
      r.Unambiguous := h.runs ((h.coherent.mem_toList_iff r).mp listed)
  refine ⟨_, rfl, ?_, h.coherent.nodup_externalMissionIds, ?_, ?_⟩
  · intro r listed
    exact ⟨(runs listed).ordered, (runs listed).taskIds, (runs listed).stepIds⟩
  · intro m x y id id' j j' k k' here there
    exact h.isAt_unique here there
  · intro r listed x i found
    exact ⟨fun j t place id => (runs listed).eq_of_findTask? found place id,
      fun idle => (runs listed).receive_recovery found idle⟩

/-- From the moment a run is stored until it is deleted, whatever else is called: the external ids
that it holds stay where they are, the events of its mission are its own, and the reports that name
a task or an inspection by held ids are applied at the position that holds them. -/
theorem resolution_stable (limits : PageLimits) (capacity : Nat) (publishes : Bool)
    (before later : List TrackerCall) {id : String} {r : MissionRun}
    (stored : (before.foldl after (fresh limits capacity publishes)).store.find? id = some r)
    (undeleted : ∀ c ∈ later, c ≠ .delete id) :
    ∃ t r', (before ++ later).foldl after (fresh limits capacity publishes) = t ∧
    t.store.find? id = some r' ∧
      (∀ slot x, r.externalIdAt slot = some x → r'.externalIdAt slot = some x) ∧
      ∀ m, r.externalIdAt .mission = some m →
        t.store.resolve? m = some (id, r') ∧
        (∀ e : StatusEvent, e.externalMissionId = m →
          (t.handle e).tracker.store = t.store.put id (r'.handle e).1 ∧
          (t.handle e).answer = (r'.handle e).2) ∧
        ∀ j x, r.externalIdAt (.task j) = some x →
          (∃ i : Fin r'.tasks.length, i.val = j ∧
            ∀ status, r'.receive (.task x status) = .ok (r'.applyTaskStatus i status)) ∧
          ∀ k y, r.externalIdAt (.step j k) = some y →
            ∃ (i : Fin r'.tasks.length) (l : Fin (r'.tasks.get i).inspections.length),
            i.val = j ∧ l.val = k ∧
              ∀ status, r'.receive (.step x y status) = .ok (r'.applyStepStatus i l status) := by
  have reached := unambiguous_foldl (fresh_unambiguous limits capacity publishes) before
  obtain ⟨r', stored', kept⟩ := retains_foldl reached stored undeleted
  have last := unambiguous_foldl reached later
  rw [← List.foldl_append] at stored' last
  refine ⟨_, r', rfl, stored', fun slot x held => kept.slot held, ?_⟩
  intro m mission
  have resolved := last.coherent.resolve?_eq_some_iff.mpr ⟨stored', kept.slot mission⟩
  refine ⟨resolved, ?_, ?_⟩
  · rintro e rfl
    exact ⟨(handle_serves.store _ e).trans (Store.receive_store last.coherent resolved),
      (handle_serves.answer _ e).trans (Store.receive_answer resolved)⟩
  · intro j x task
    refine ⟨(last.runs stored').receive_task (kept.slot task), ?_⟩
    intro k y step
    exact (last.runs stored').receive_step (kept.slot task) (kept.slot step)

def valveCheck : MissionRun :=
  deckScan.withTask (((MissionTask.fresh "task" 1).withExternalId "valves").withInspection
    ((Inspection.fresh "inspection" .image).withExternalId "photo"))

/-- A refused assignment of other ids, a refused second run of the mission, and a report, none of
which moves the ids of the run. -/
theorem resolution_stable_valveCheck :
    ∃ t r', [TrackerCall.create valveCheck, .assign "run" ⟨some "roof", [⟨1, some "pumps", []⟩]⟩,
        .create (deckScan.withExternalId "deck"),
        .event (.task "deck" "valves" "in_progress")].foldl after
          (fresh .standard 1 false) = t ∧
      t.store.resolve? "deck" = some ("run", r') ∧ r'.externalIdAt (.task 0) = some "valves" ∧
      ∃ i l, i.val = 0 ∧ l.val = 0 ∧
        r'.receive (.step "valves" "photo" .successful) =
        .ok (r'.applyStepStatus i l .successful) := by
  have stored :
      ([TrackerCall.create valveCheck].foldl after (fresh .standard 1 false)).store.find? "run" =
      some valveCheck := by decide +kernel
  obtain ⟨t, r', made, _, kept, leads⟩ :=
    resolution_stable .standard 1 false [.create valveCheck]
      [.assign "run" ⟨some "roof", [⟨1, some "pumps", []⟩]⟩,
        .create (deckScan.withExternalId "deck"),
        .event (.task "deck" "valves" "in_progress")] stored (by simp)
  obtain ⟨resolved, _, places⟩ := leads "deck" rfl
  obtain ⟨i, l, first, only, applied⟩ := (places 0 "valves" rfl).2 0 "photo" rfl
  exact ⟨t, r', made, resolved, kept (.task 0) "valves" rfl, i, l, first, only, applied .successful⟩

end Tracker
end MissionTracking
