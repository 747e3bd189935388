import MissionTracking.Proofs.Run.Unambiguous

/-!
The statuses of a run looked up by position, of all three levels in one type, beside the names that
reports give the slots. A transition writes statuses only, so afterwards the same slots exist under
the same names, and a run whose lookups are the same is the same run.
-/
namespace MissionTracking

abbrev StatusSlot := IdSlot

inductive Status where
  | mission (status : MissionStatus)
  | task (status : TaskStatus)
  | inspection (status : InspectionStatus)
deriving DecidableEq, Repr

def Status.text : Status → String
  | .mission s => s.text
  | .task s => s.text
  | .inspection s => s.text

def Statuses.at (s : Statuses) : StatusSlot → Status
  | .mission => .mission s.mission
  | .task j => .task (s.task j)
  | .step j k => .inspection (s.step j k)

namespace MissionRun

def statusAt (r : MissionRun) : StatusSlot → Option Status
  | .mission => some (.mission r.status)
  | .task j => r.tasks[j]?.map fun t => .task t.status
  | .step j k => (r.tasks[j]?.bind fun t => t.inspections[k]?).map fun i => .inspection i.status

def targetAt (r : MissionRun) : StatusSlot → Option StatusTarget
  | .mission => some .mission
  | .task j => r.tasks[j]?.map fun t => .task t.id t.taskOrder
  | .step j k => r.tasks[j]?.bind fun t => t.inspections[k]?.map fun i => .inspection t.id i.id

variable {r changed : MissionRun}

theorem eq_withStatuses_statuses
    (frame : changed = { r with status := changed.status, tasks := changed.tasks })
    (length : changed.tasks.length = r.tasks.length)
    (each : ∀ (j : Nat) (t : MissionTask), r.tasks[j]? = some t →
      ∃ status steps, changed.tasks[j]? = some (t.withStatuses status steps)) :
    changed = r.withStatuses changed.statuses := by
  refine eq_withStatuses frame rfl length ?_
  intro j t place
  obtain ⟨status, steps, place'⟩ := each j t place
  have own := changed.withStatuses_own place'
  rw [MissionTask.withStatuses_withStatuses] at own
  rw [place', own]

theorem statusAt_withStatuses (r : MissionRun) (s : Statuses) (slot : StatusSlot) :
    (r.withStatuses s).statusAt slot = (r.statusAt slot).map fun _ => s.at slot := by
  cases slot with
  | mission => rfl
  | task j =>
    rw [statusAt, getElem?_withStatuses, Option.map_map, statusAt, Option.map_map]
    rfl
  | step j k =>
    simp only [statusAt, getElem?_withStatuses]
    cases r.tasks[j]? with
    | none => rfl
    | some t =>
      simp only [Option.map_some, Option.bind_some, MissionTask.withStatuses, List.getElem?_mapIdx,
        Option.map_map]
      rfl

theorem targetAt_withStatuses (r : MissionRun) (s : Statuses) (slot : StatusSlot) :
    (r.withStatuses s).targetAt slot = r.targetAt slot := by
  cases slot with
  | mission => rfl
  | task j =>
    rw [targetAt, getElem?_withStatuses, Option.map_map, targetAt]
    rfl
  | step j k =>
    simp only [targetAt, getElem?_withStatuses]
    cases r.tasks[j]? with
    | none => rfl
    | some t =>
      simp only [Option.map_some, Option.bind_some, MissionTask.withStatuses, List.getElem?_mapIdx,
        Option.map_map]
      rfl

theorem targetAt_isSome (r : MissionRun) (slot : StatusSlot) :
    (r.targetAt slot).isSome = (r.statusAt slot).isSome := by
  cases slot with
  | mission => rfl
  | task j => simp only [targetAt, statusAt, Option.isSome_map]
  | step j k =>
    simp only [targetAt, statusAt]
    cases r.tasks[j]? with
    | none => rfl
    | some t => simp only [Option.bind_some, Option.isSome_map]

theorem eq_of_statusAt (written : changed = r.withStatuses changed.statuses)
    (same : ∀ slot, r.statusAt slot = changed.statusAt slot) : changed = r := by
  have held (slot : StatusSlot) {status : Status} (now : r.statusAt slot = some status) :
      changed.statuses.at slot = status := by
    have after := same slot
    rw [written, statusAt_withStatuses, now, Option.map_some] at after
    exact (Option.some.inj after).symm
  rw [written]
  conv_rhs => rw [← r.withStatuses_statuses]
  apply withStatuses_congr
  · have mission := held .mission rfl
    exact Status.mission.inj mission
  · intro j t place
    have task := held (.task j) (by rw [statusAt, place, Option.map_some])
    rw [r.statuses_task place]
    exact Status.task.inj task
  · intro j k t i place step
    have inspection :=
      held (.step j k) (by rw [statusAt, place, Option.bind_some, step, Option.map_some])
    rw [r.statuses_step place step]
    exact Status.inspection.inj inspection

theorem applyMissionStatus_written (r : MissionRun) (status : MissionStatus) :
    (r.applyMissionStatus status).1 = r.withStatuses (r.applyMissionStatus status).1.statuses :=
  (r.applyMissionStatus status).1.withStatuses_statuses.symm

theorem applyTaskStatus_written (r : MissionRun) (i : Fin r.tasks.length) (status : TaskStatus) :
    (r.applyTaskStatus i status).1 = r.withStatuses (r.applyTaskStatus i status).1.statuses := by
  apply eq_withStatuses_statuses (r.applyTaskStatus_frame i status)
    (r.length_applyTaskStatus i status)
  intro j t place
  have own := r.withStatuses_own place
  rw [r.getElem?_applyTaskStatus i status place]
  split
  · exact ⟨status, r.statuses.step j,
      congrArg (fun t : MissionTask => some { t with status }) own.symm⟩
  · split
    · exact ⟨.notStarted, fun _ => .notStarted, congrArg some (reset_eq_withStatuses t)⟩
    · exact ⟨r.statuses.task j, r.statuses.step j, congrArg some own.symm⟩

theorem applyStepStatus_written (r : MissionRun) (i : Fin r.tasks.length)
    (k : Fin (r.tasks.get i).inspections.length) (status : InspectionStatus) :
    (r.applyStepStatus i k status).1 =
    r.withStatuses (r.applyStepStatus i k status).1.statuses := by
  apply eq_withStatuses_statuses rfl List.length_set
  intro j t place
  rw [applyStepStatus, List.getElem?_set]
  split
  · rename_i here
    subst here
    have written := set_inspection (r.tasks.get i) k status fun l inspection step =>
      r.statuses_step (List.getElem?_eq_getElem i.isLt) step
    cases getElem_eq_of_getElem? r place
    rw [if_pos i.isLt]
    exact ⟨_, _, congrArg some written⟩
  · exact ⟨r.statuses.task j, r.statuses.step j, by rw [place, r.withStatuses_own place]⟩

end MissionRun
end MissionTracking
