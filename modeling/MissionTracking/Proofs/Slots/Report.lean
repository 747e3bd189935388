import MissionTracking.Proofs.Slots.Basic

/-!
One report against the slots. Resolving and applying a report is the same as writing the slots that
it is said to write: its own, and for a task in progress under a mission that is not ongoing also
the slots of the mission and of every task ordered after it, with their inspections.
-/
namespace MissionTracking.MissionRun
variable (r : MissionRun) (s : Statuses)

theorem findTask?_position (e : String) : (r.findTask? e).map Fin.val = r.taskPosition e :=
  List.findIdx?_eq_map_findFinIdx?_val.symm

theorem findStep?_position (t : MissionTask) (e : String) :
    (t.findStep? e).map Fin.val = t.stepPosition e :=
  List.findIdx?_eq_map_findFinIdx?_val.symm

theorem stepPosition_eq_find (t s : String) :
    r.stepPosition t s =
      (r.findTask? t).bind fun i => ((r.tasks.get i).findStep? s).map fun k => (i.val, k.val) := by
  unfold stepPosition
  rw [← findTask?_position]
  cases r.findTask? t with
  | none => rfl
  | some i =>
    have task : r.tasks[i.val]? = some (r.tasks.get i) := List.getElem?_eq_getElem i.isLt
    simp only [Option.map_some, Option.bind_eq_bind, Option.bind_some, task]
    rw [← findStep?_position]
    cases (r.tasks.get i).findStep? s <;> rfl

theorem after_mission (status : MissionStatus) :
    r.after (.mission status) = { r with status } := rfl

theorem after_task (t : String) (status : TaskStatus) :
    r.after (.task t status) =
    ((r.findTask? t).map fun i => (r.applyTaskStatus i status).1).getD r := by
  cases found : r.findTask? t with
  | none => simp only [after, receive, found, Option.map_none, Option.getD_none]
  | some i => simp only [after, receive, found, Option.map_some, Option.getD_some]

theorem after_step (t s : String) (status : InspectionStatus) :
    r.after (.step t s status) =
    ((r.findTask? t).bind fun i => ((r.tasks.get i).findStep? s).map fun k =>
      (r.applyStepStatus i k status).1).getD r := by
  cases found : r.findTask? t with
  | none => simp only [after, receive, found, Option.bind_none, Option.getD_none]
  | some i =>
    cases step : (r.tasks.get i).findStep? s with
    | none =>
      have resolved : r.tasks[i].findStep? s = none := step
      simp only [after, receive, found, step, resolved, Option.bind_some, Option.map_none,
        Option.getD_none]
    | some k =>
      have resolved : r.tasks[i].findStep? s = some k := step
      simp only [after, receive, found, step, resolved, Option.bind_some, Option.map_some,
        Option.getD_some]

theorem getElem_eq_of_getElem? {i : Fin r.tasks.length} {t : MissionTask}
    (hi : r.tasks[i.val]? = some t) : r.tasks.get i = t :=
  Option.some.inj ((List.getElem?_eq_getElem i.isLt).symm.trans hi)

theorem getElem?_set_status (i : Fin r.tasks.length) (status : TaskStatus) {j : Nat}
    {t : MissionTask} (hj : r.tasks[j]? = some t) :
    (r.tasks.set i { r.tasks.get i with status })[j]? =
    some (if i.val = j then { t with status } else t) := by
  rw [List.getElem?_set]
  by_cases own : i.val = j
  · subst own
    rw [if_pos rfl, if_pos rfl, if_pos i.isLt, getElem_eq_of_getElem? r hj]
  · rw [if_neg own, if_neg own, hj]

theorem getElem?_applyTaskStatus (i : Fin r.tasks.length) (status : TaskStatus) {j : Nat}
    {t : MissionTask} (hj : r.tasks[j]? = some t) :
    (r.applyTaskStatus i status).1.tasks[j]? =
      some (if i.val = j then { t with status }
        else if isRecovery r.status status = true ∧ (r.tasks.get i).taskOrder < t.taskOrder then
          t.reset
        else t) := by
  have written := r.getElem?_set_status i status hj
  have reporting : r.tasks[i] = r.tasks.get i := rfl
  unfold applyTaskStatus
  by_cases recovery : isRecovery r.status status = true
  · simp only [recovery, if_true, resetAfter, List.getElem?_map, reporting, written,
      Option.map_some, true_and]
    by_cases own : i.val = j
    · subst own
      have task := getElem_eq_of_getElem? r hj
      simp only [if_true, task, UInt32.lt_irrefl, if_false]
    · simp only [own, if_false]
  · simp only [recovery, Bool.false_eq_true, if_false, reporting, written, false_and]

theorem status_applyTaskStatus (i : Fin r.tasks.length) (status : TaskStatus) :
    (r.applyTaskStatus i status).1.status =
      if isRecovery r.status status then .ongoing else r.status := by
  unfold applyTaskStatus
  by_cases recovery : isRecovery r.status status = true
  · simp only [recovery, if_true]
  · simp only [recovery, if_false, Bool.false_eq_true]

theorem applyTaskStatus_frame (i : Fin r.tasks.length) (status : TaskStatus) :
    (r.applyTaskStatus i status).1 =
      { r with status := (r.applyTaskStatus i status).1.status,
               tasks := (r.applyTaskStatus i status).1.tasks } := by
  unfold applyTaskStatus
  dsimp only
  split <;> rfl

theorem length_applyTaskStatus (i : Fin r.tasks.length) (status : TaskStatus) :
    (r.applyTaskStatus i status).1.tasks.length = r.tasks.length := by
  unfold applyTaskStatus
  dsimp only
  split <;> simp [resetAfter]

theorem restarts_iff {t : String} {i : Fin r.tasks.length}
    (found : r.findTask? t = some i) {j : Nat}
    {task : MissionTask} (hj : r.tasks[j]? = some task) (mission : MissionStatus)
    (status : TaskStatus) :
    r.restarts j mission (.task t status) = true ↔
      isRecovery mission status = true ∧ (r.tasks.get i).taskOrder < task.taskOrder := by
  have position : r.taskPosition t = some i.val := by
    rw [← findTask?_position, found, Option.map_some]
  have reporting : r.tasks[i.val]? = some (r.tasks.get i) := List.getElem?_eq_getElem i.isLt
  simp only [restarts, position, orderAt, reporting, hj, Option.bind_some, Option.map_some,
    Option.any_some, Bool.and_eq_true, decide_eq_true_eq, isRecovery, MissionStatus.isActive, bne]

theorem reset_eq_withStatuses (t : MissionTask) :
    t.reset = t.withStatuses .notStarted fun _ => .notStarted := by
  have inspections : t.inspections.map Inspection.reset =
      t.inspections.mapIdx fun _ i => { i with status := .notStarted } := by
    apply List.ext_getElem?
    intro k
    rw [List.getElem?_map, List.getElem?_mapIdx]
    rfl
  exact congrArg (fun is => { t with status := .notStarted, inspections := is }) inspections

theorem taskPosition_of_found {t : String} {i : Fin r.tasks.length}
    (found : r.findTask? t = some i) : r.taskPosition t = some i.val := by
  rw [← findTask?_position, found, Option.map_some]

theorem taskPosition_of_missing {t : String} (missing : r.findTask? t = none) :
    r.taskPosition t = none := by
  rw [← findTask?_position, missing, Option.map_none]

theorem statuses_after_missing {t : String} (missing : r.taskPosition t = none)
    (status : TaskStatus) : r.statuses.after r (.task t status) = r.statuses := by
  simp [Statuses.after, missionWrite, taskWrite, stepWrite, restarts, missing]
  rfl

theorem mission_slot_after {t : String} {i : Fin r.tasks.length} (found : r.findTask? t = some i)
    (status : TaskStatus) :
    (r.statuses.after r (.task t status)).mission =
      if isRecovery r.status status then .ongoing else r.status := by
  have position := r.taskPosition_of_found found
  by_cases progress : status = .inProgress
  · subst progress
    have written : (r.statuses.after r (.task t .inProgress)).mission = .ongoing := by
      simp only [Statuses.after, missionWrite, position, if_true, Option.map_some, Option.getD_some]
    rw [written]
    by_cases ongoing : r.status = .ongoing
    · simp [isRecovery, MissionStatus.isActive, ongoing]
    · simp [isRecovery, MissionStatus.isActive, ongoing]
  · simp [Statuses.after, missionWrite, isRecovery, progress, statuses]

theorem task_slots_after {t : String} {i : Fin r.tasks.length} (found : r.findTask? t = some i)
    (status : TaskStatus) {j : Nat} {task : MissionTask} (hj : r.tasks[j]? = some task) :
    task.withStatuses ((r.statuses.after r (.task t status)).task j)
      ((r.statuses.after r (.task t status)).step j) =
      if i.val = j then { task with status }
      else if isRecovery r.status status = true ∧ (r.tasks.get i).taskOrder < task.taskOrder then
        task.reset
      else task := by
  have position := r.taskPosition_of_found found
  have kept := r.withStatuses_own hj
  have condition := r.restarts_iff found hj r.status status
  by_cases own : i.val = j
  · have calm : r.restarts j r.status (.task t status) = false := by
      subst own
      rw [getElem_eq_of_getElem? r hj] at condition
      simpa [UInt32.lt_irrefl] using condition
    simp only [Statuses.after, taskWrite, stepWrite, statuses_mission, position, own, calm,
      if_true, if_false, Bool.false_eq_true, Option.getD_some, Option.getD_none]
    exact congrArg (fun t : MissionTask => { t with status }) kept
  · have other : ¬ (some i.val = some j) := fun h => own (Option.some.inj h)
    by_cases again : r.restarts j r.status (.task t status) = true
    · simp only [Statuses.after, taskWrite, stepWrite, statuses_mission, position,
        other, own, again, condition.mp again, if_true, if_false, Option.getD_some, and_self,
        reset_eq_withStatuses]
    · have calm := fun h => again (condition.mpr h)
      simp only [if_neg own, if_neg calm]
      simpa only [Statuses.after, taskWrite, stepWrite, statuses_mission, position, other,
        again, if_false, Bool.false_eq_true, Option.getD_none] using kept

theorem statuses_after_missing_step {t s : String} (missing : r.stepPosition t s = none)
    (status : InspectionStatus) : r.statuses.after r (.step t s status) = r.statuses := by
  simp [Statuses.after, missionWrite, taskWrite, stepWrite, missing]
  rfl

theorem set_inspection (t : MissionTask) {steps : Nat → InspectionStatus}
    (k : Fin t.inspections.length) (status : InspectionStatus)
    (own : ∀ (l : Nat) (i : Inspection), t.inspections[l]? = some i → steps l = i.status) :
    { t with inspections := t.inspections.set k { t.inspections[k] with status } } =
      t.withStatuses t.status fun l => if k.val = l then status else steps l := by
  have inspections : t.inspections.set k { t.inspections[k] with status } =
      t.inspections.mapIdx fun l i =>
        { i with status := if k.val = l then status else steps l } := by
    apply List.ext_getElem?
    intro l
    rw [List.getElem?_set, List.getElem?_mapIdx]
    by_cases here : k.val = l
    · subst here
      simp only [if_true, k.isLt, List.getElem?_eq_getElem, Option.map_some]
      rfl
    · simp only [here, if_false]
      cases hl : t.inspections[l]? with
      | none => rfl
      | some i => rw [Option.map_some, own l i hl]
  exact congrArg (fun is => { t with inspections := is }) inspections

theorem step_slots_after {t s : String} {i : Fin r.tasks.length}
    {k : Fin (r.tasks.get i).inspections.length}
    (position : r.stepPosition t s = some (i.val, k.val)) (status : InspectionStatus) {j : Nat}
    {task : MissionTask} (hj : r.tasks[j]? = some task) :
    (r.applyStepStatus i k status).1.tasks[j]? = some
      (task.withStatuses ((r.statuses.after r (.step t s status)).task j)
        ((r.statuses.after r (.step t s status)).step j)) := by
  have task_slot : (r.statuses.after r (.step t s status)).task j = task.status := by
    rw [← r.statuses_task hj]
    rfl
  have step_slot (l : Nat) : (r.statuses.after r (.step t s status)).step j l =
      if i.val = j ∧ k.val = l then status else r.statuses.step j l := by
    simp only [Statuses.after, stepWrite, position, Option.some.injEq, Prod.mk.injEq]
    split <;> rfl
  simp only [applyStepStatus, List.getElem?_set, task_slot]
  by_cases own : i.val = j
  · subst own
    cases getElem_eq_of_getElem? r hj
    have slots : (r.statuses.after r (.step t s status)).step i.val =
        fun l => if k.val = l then status else r.statuses.step i.val l := by
      funext l
      simp only [step_slot l, true_and]
    simp only [if_true, i.isLt, slots]
    exact congrArg
      some (set_inspection (r.tasks.get i) k status fun l inspection hl => r.statuses_step hj hl)
  · have slots : (r.statuses.after r (.step t s status)).step j = r.statuses.step j := by
      funext l
      simp only [step_slot l, own, false_and, if_false]
    simp only [own, if_false, hj, slots]
    rw [← r.statuses_task hj, r.withStatuses_own hj]

/-- A report to a run writes the slots that it is said to write, and nothing else. -/
theorem after_eq_withStatuses (report : StatusReport) :
    r.after report = r.withStatuses (r.statuses.after r report) := by
  cases report with
  | mission status =>
    rw [after_mission]
    exact eq_withStatuses rfl rfl rfl fun j t hj =>
      hj.trans (congrArg some (r.withStatuses_own hj).symm)
  | task e status =>
    rw [after_task]
    cases found : r.findTask? e with
    | none =>
      rw [statuses_after_missing r (r.taskPosition_of_missing found)]
      exact r.withStatuses_statuses.symm
    | some i =>
      have mission : (r.applyTaskStatus i status).1.status =
          (r.statuses.after r (.task e status)).mission := by
        rw [status_applyTaskStatus, mission_slot_after r found]
      refine eq_withStatuses (r.applyTaskStatus_frame i status) mission
        (r.length_applyTaskStatus i status) ?_
      intro j t hj
      exact (r.getElem?_applyTaskStatus i status hj).trans
        (congrArg some (r.task_slots_after found status hj).symm)
  | step e f status =>
    have position := r.stepPosition_eq_find e f
    rw [after_step]
    cases found : r.findTask? e with
    | none =>
      rw [found, Option.bind_none] at position
      rw [statuses_after_missing_step r position, withStatuses_statuses]
      rfl
    | some i =>
      cases step : (r.tasks.get i).findStep? f with
      | none =>
        rw [found, Option.bind_some, step, Option.map_none] at position
        rw [statuses_after_missing_step r position, withStatuses_statuses, Option.bind_some, step]
        rfl
      | some k =>
        rw [found, Option.bind_some, step, Option.map_some] at position
        rw [Option.bind_some, step]
        have length : (r.applyStepStatus i k status).1.tasks.length = r.tasks.length :=
          List.length_set
        exact eq_withStatuses rfl rfl length fun j t hj => r.step_slots_after position status hj

theorem after_withStatuses (report : StatusReport) :
    (r.withStatuses s).after report = r.withStatuses (s.after r report) := by
  have mission : (r.withStatuses s).statuses.mission = s.mission := rfl
  rw [after_eq_withStatuses, withStatuses_withStatuses]
  apply withStatuses_congr
  · simp only [Statuses.after, missionWrite_withStatuses, mission]
  · intro j t hj
    have stored : (r.withStatuses s).tasks[j]? = some (t.withStatuses (s.task j) (s.step j)) := by
      rw [getElem?_withStatuses, hj, Option.map_some]
    have task : (r.withStatuses s).statuses.task j = s.task j := statuses_task _ stored
    simp only [Statuses.after, taskWrite_withStatuses, mission, task]
  · intro j k t i hj hk
    have stored : (r.withStatuses s).tasks[j]? = some (t.withStatuses (s.task j) (s.step j)) := by
      rw [getElem?_withStatuses, hj, Option.map_some]
    have inner : (t.withStatuses (s.task j) (s.step j)).inspections[k]? =
        some { i with status := s.step j k } := by
      rw [MissionTask.withStatuses, List.getElem?_mapIdx, hk, Option.map_some]
    have step : (r.withStatuses s).statuses.step j k = s.step j k := statuses_step _ stored inner
    simp only [Statuses.after, stepWrite_withStatuses, mission, step]

end MissionTracking.MissionRun
