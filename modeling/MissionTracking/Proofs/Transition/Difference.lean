import MissionTracking.Proofs.Slots.Status

/-!
A transition against the run before and after it. Slots are compared by position: a report lists the
slots whose status is another one afterwards, each once, and no slot that it leaves out has changed.
The slot of the report comes first, and behind it what a recovery starts over.
-/
namespace MissionTracking

namespace MissionTask

def slots (t : MissionTask) (j : Nat) : List StatusSlot :=
  .task j :: t.inspections.zipIdx.map fun place => .step j place.2

end MissionTask

namespace MissionRun

/-- The slots of the tasks with a greater order, in the order of the tasks. -/
def slotsBehind (r : MissionRun) (order : UInt32) : List StatusSlot :=
  r.tasks.zipIdx.flatMap fun place => if order < place.1.taskOrder then
    place.1.slots place.2 else []

/-- The entry for a slot whose status differs between two runs. -/
def changeAt (before after : MissionRun) (cause : ChangeCause) (slot : StatusSlot) :
    Option StatusChange := do
  let target ← before.targetAt slot
  let old ← before.statusAt slot
  let new ← after.statusAt slot
  if old = new then none else some ⟨target, old.text, new.text, cause⟩

/-- A report lists the difference of two runs: first the reported slots, then those that were reset,
of both only the ones whose status is another one afterwards. No slot is looked at twice, and none
is left out that differs. -/
structure Differs (before after : MissionRun) (report : TransitionReport)
    (reported reset : List StatusSlot) : Prop where
  run : report.missionRunId = before.id
  changes : report.changes = reported.filterMap (before.changeAt after .reported) ++
    reset.filterMap (before.changeAt after .recoveryReset)
  once : (reported ++ reset).Nodup
  complete : ∀ slot, before.statusAt slot ≠ after.statusAt slot → slot ∈ reported ++ reset

theorem filter_set_of_not {p : α → Bool} {as : List α} {i : Nat} {a : α} (inside : i < as.length)
    (old : p as[i] = false) (new : p a = false) : (as.set i a).filter p = as.filter p := by
  have around : as = as.take i ++ as[i] :: as.drop (i + 1) := by
    rw [List.getElem_cons_drop, List.take_append_drop]
  rw [List.set_eq_take_append_cons_drop, if_pos inside]
  conv_rhs => rw [around]
  simp only [List.filter_append, List.filter_cons, old, new, Bool.false_eq_true, if_false]

theorem flatMap_filter (p : α → Bool) (f : α → List β) (as : List α) :
    (as.filter p).flatMap f = as.flatMap fun a => if p a then f a else [] := by
  induction as with
  | nil => rfl
  | cons a as ih =>
    rw [List.flatMap_cons, List.filter_cons]
    cases p a
    · simpa using ih
    · simpa using ih

theorem flatMap_zipIdx {f : α × Nat → List β} {g : α → List β} {as : List α}
    (same : ∀ j a, as[j]? = some a → f (a, j) = g a) : as.zipIdx.flatMap f = as.flatMap g := by
  have unplaced : as.flatMap g = as.zipIdx.flatMap fun place => g place.1 := by
    conv_lhs => rw [← List.zipIdx_map_fst 0 as, List.flatMap_map]
  rw [unplaced]
  apply List.flatMap_congr
  rintro ⟨a, j⟩ member
  exact same j a (List.mem_zipIdx_iff_getElem?.mp member)

theorem nodup_zipIdx (as : List α) : (as.zipIdx.map Prod.snd).Nodup := by
  rw [List.zipIdx_map_snd]
  exact List.nodup_range'

variable {r changed : MissionRun} {cause : ChangeCause} {slot : StatusSlot}

theorem changeAt_of_same (same : r.statusAt slot = changed.statusAt slot) :
    r.changeAt changed cause slot = none := by
  unfold changeAt
  rw [← same]
  cases r.targetAt slot <;> cases r.statusAt slot <;> simp

theorem toList_changeAt {target : StatusTarget} (old new : Status)
    (named : r.targetAt slot = some target)
    (held : r.statusAt slot = some old) (holds : changed.statusAt slot = some new)
    (alike : old.text = new.text ↔ old = new) :
    (r.changeAt changed cause slot).toList =
    StatusChange.between target old.text new.text cause := by
  simp only [changeAt, named, held, holds, Option.bind_eq_bind, Option.bind_some,
    StatusChange.between, alike]
  split <;> rfl

theorem toList_changeAt_mission :
    (r.changeAt changed cause .mission).toList =
      StatusChange.between .mission r.status.text changed.status.text cause :=
  toList_changeAt (.mission r.status) (.mission changed.status) rfl rfl rfl
    (by simp [Status.text, MissionStatus.text_injective])

theorem toList_changeAt_task {j : Nat} {t t' : MissionTask} (place : r.tasks[j]? = some t)
    (place' : changed.tasks[j]? = some t') :
    (r.changeAt changed cause (.task j)).toList =
      StatusChange.between (.task t.id t.taskOrder) t.status.text t'.status.text cause := by
  apply toList_changeAt (.task t.status) (.task t'.status)
  · rw [targetAt, place, Option.map_some]
  · rw [statusAt, place, Option.map_some]
  · rw [statusAt, place', Option.map_some]
  · simp [Status.text, TaskStatus.text_injective]

theorem toList_changeAt_step {j k : Nat} {t t' : MissionTask} {i i' : Inspection}
    (place : r.tasks[j]? = some t)
    (place' : changed.tasks[j]? = some t') (step : t.inspections[k]? = some i)
    (step' : t'.inspections[k]? = some i') :
    (r.changeAt changed cause (.step j k)).toList =
      StatusChange.between (.inspection t.id i.id) i.status.text i'.status.text cause := by
  apply toList_changeAt (.inspection i.status) (.inspection i'.status)
  · rw [targetAt, place, Option.bind_some, step, Option.map_some]
  · rw [statusAt, place, Option.bind_some, step, Option.map_some]
  · rw [statusAt, place', Option.bind_some, step', Option.map_some]
  · simp [Status.text, InspectionStatus.text_injective]

variable {order : UInt32}

theorem mem_slots {t : MissionTask} {j : Nat} :
    slot ∈ t.slots j ↔ slot = .task j ∨ ∃ k i, t.inspections[k]? = some i ∧ slot = .step j k := by
  simp only [MissionTask.slots, List.mem_cons, List.mem_map, Prod.exists,
    List.mem_zipIdx_iff_getElem?]
  constructor
  · rintro (rfl | ⟨i, k, place, rfl⟩)
    · exact .inl rfl
    · exact .inr ⟨k, i, place, rfl⟩
  · rintro (rfl | ⟨k, i, place, rfl⟩)
    · exact .inl rfl
    · exact .inr ⟨i, k, place, rfl⟩

theorem mem_slotsBehind :
    slot ∈ r.slotsBehind order ↔
      ∃ (j : Nat) (t : MissionTask), r.tasks[j]? = some t ∧ order < t.taskOrder ∧
      slot ∈ t.slots j := by
  simp only [slotsBehind, List.mem_flatMap, Prod.exists, List.mem_zipIdx_iff_getElem?]
  constructor
  · rintro ⟨t, j, place, member⟩
    split at member
    · exact ⟨j, t, place, ‹_›, member⟩
    · cases member
  · rintro ⟨j, t, place, behind, member⟩
    exact ⟨t, j, place, by rwa [if_pos behind]⟩

theorem nodup_slots (t : MissionTask) (j : Nat) : (t.slots j).Nodup := by
  unfold MissionTask.slots
  rw [List.nodup_cons]
  constructor
  · simp
  · have places := nodup_zipIdx t.inspections
    have distinct :=
      places.map fun k l (same : IdSlot.step j k = .step j l) => (IdSlot.step.inj same).2
    rwa [List.map_map] at distinct

theorem nodup_slotsBehind (r : MissionRun) (order : UInt32) : (r.slotsBehind order).Nodup := by
  unfold slotsBehind
  rw [List.nodup_flatMap]
  constructor
  · rintro ⟨t, j⟩ -
    dsimp only
    split
    · exact nodup_slots t j
    · exact List.nodup_nil
  · refine (List.pairwise_map.mp (nodup_zipIdx r.tasks)).imp ?_
    rintro ⟨t, j⟩ ⟨t', j'⟩ other slot first second
    dsimp only at first second other
    split at first
    · split at second
      · rcases mem_slots.mp first with rfl | ⟨k, i, _, rfl⟩
        · rcases mem_slots.mp second with same | ⟨k, i, _, same⟩
          · exact other (IdSlot.task.inj same)
          · cases same
        · rcases mem_slots.mp second with same | ⟨k', i', _, same⟩
          · cases same
          · exact other (IdSlot.step.inj same).1
      · cases second
    · cases first

theorem task_not_mem_reset (r : MissionRun) (i : Fin r.tasks.length) :
    IdSlot.task i ∉ IdSlot.mission :: r.slotsBehind (r.tasks.get i).taskOrder := by
  intro member
  rcases List.mem_cons.mp member with same | member
  · cases same
  · obtain ⟨j, t, place, behind, member⟩ := mem_slotsBehind.mp member
    rcases mem_slots.mp member with same | ⟨_, _, _, same⟩
    · cases same
      cases getElem_eq_of_getElem? r place
      exact UInt32.lt_irrefl _ behind
    · cases same

theorem nodup_reset (r : MissionRun) (order : UInt32) :
    (IdSlot.mission :: r.slotsBehind order).Nodup := by
  rw [List.nodup_cons]
  refine ⟨?_, nodup_slotsBehind r order⟩
  intro member
  obtain ⟨_, _, _, _, member⟩ := mem_slotsBehind.mp member
  rcases mem_slots.mp member with same | ⟨_, _, _, same⟩
  · cases same
  · cases same

theorem entries_reset {j : Nat} {t : MissionTask} (place : r.tasks[j]? = some t)
    (reset : changed.tasks[j]? = some t.reset) :
    (t.slots j).filterMap (r.changeAt changed .recoveryReset) = t.resetChanges := by
  rw [List.filterMap_eq_flatMap_toList, MissionTask.slots, List.flatMap_cons,
    toList_changeAt_task place reset, List.flatMap_map, MissionTask.resetChanges]
  congr 1
  apply flatMap_zipIdx
  intro k i step
  have step' : t.reset.inspections[k]? = some i.reset := by
    rw [MissionTask.reset, List.getElem?_map, step, Option.map_some]
  exact toList_changeAt_step place reset step step'

theorem entries_behind
    (recovered : ∀ (j : Nat) (t : MissionTask), r.tasks[j]? = some t → order < t.taskOrder →
      changed.tasks[j]? = some t.reset) :
    (r.slotsBehind order).filterMap
    (r.changeAt changed .recoveryReset) = resetChangesAfter order r.tasks := by
  unfold slotsBehind resetChangesAfter
  rw [List.filterMap_flatMap, flatMap_filter]
  apply flatMap_zipIdx
  intro j t place
  by_cases behind : order < t.taskOrder
  · simp only [behind, if_true, decide_true]
    exact entries_reset place (recovered j t place behind)
  · simp only [behind, if_false, decide_false, Bool.false_eq_true, List.filterMap_nil]

theorem differs_applyMissionStatus (r : MissionRun) (status : MissionStatus) :
    r.Differs (r.applyMissionStatus status).1 (r.applyMissionStatus status).2 [.mission] [] where
  run := rfl
  changes := by
    rw [List.filterMap_nil, List.append_nil, List.filterMap_eq_flatMap_toList,
      List.flatMap_singleton, toList_changeAt_mission]
    rfl
  once := by simp
  complete slot differs := by
    cases slot with
    | mission => simp
    | task j => exact absurd rfl differs
    | step j k => exact absurd rfl differs

theorem differs_applyStepStatus (r : MissionRun) (i : Fin r.tasks.length)
    (k : Fin (r.tasks.get i).inspections.length) (status : InspectionStatus) :
    r.Differs (r.applyStepStatus i k status).1 (r.applyStepStatus i k status).2 [.step i k] [] where
  run := rfl
  changes := by
    have place : r.tasks[i.val]? = some (r.tasks.get i) := List.getElem?_eq_getElem i.isLt
    have step : (r.tasks.get i).inspections[k.val]? = some (r.tasks.get i).inspections[k] :=
      List.getElem?_eq_getElem k.isLt
    have place' : (r.applyStepStatus i k status).1.tasks[i.val]? = some { (r.tasks.get i) with
        inspections :=
          (r.tasks.get i).inspections.set k { (r.tasks.get i).inspections.get k with status } } :=
      List.getElem?_set_self i.isLt
    have step' :
        ((r.tasks.get i).inspections.set k
          { (r.tasks.get i).inspections.get k with status })[k.val]? =
        some { (r.tasks.get i).inspections.get k with status } := List.getElem?_set_self k.isLt
    rw [List.filterMap_nil, List.append_nil, List.filterMap_eq_flatMap_toList,
      List.flatMap_singleton, toList_changeAt_step place place' step step']
    rfl
  once := by simp
  complete slot differs := by
    by_contra unlisted
    have elsewhere : slot ≠ .step i k := by simpa using unlisted
    apply differs
    cases slot with
    | mission => rfl
    | task j =>
      simp only [statusAt, applyStepStatus, List.getElem?_set]
      by_cases here : i.val = j
      · subst here
        simp only [if_true, i.isLt, List.getElem?_eq_getElem, Option.map_some]
        rfl
      · rw [if_neg here]
    | step j l =>
      simp only [statusAt, applyStepStatus, List.getElem?_set]
      by_cases here : i.val = j
      · subst here
        have other : k.val ≠ l := by
          rintro rfl
          exact elsewhere rfl
        simp only [if_true, i.isLt, List.getElem?_eq_getElem, Option.bind_some,
          List.getElem?_set_ne other]
        rfl
      · rw [if_neg here]

theorem changes_applyTaskStatus (r : MissionRun) (i : Fin r.tasks.length) (status : TaskStatus) :
    (r.applyTaskStatus i status).2.changes =
      StatusChange.between (.task (r.tasks.get i).id (r.tasks.get i).taskOrder)
        (r.tasks.get i).status.text status.text .reported ++
      if isRecovery r.status status then
        StatusChange.between .mission r.status.text MissionStatus.ongoing.text .recoveryReset ++
          resetChangesAfter (r.tasks.get i).taskOrder r.tasks
      else [] := by
  have untouched :
      resetChangesAfter (r.tasks.get i).taskOrder (r.tasks.set i { (r.tasks.get i) with status }) =
      resetChangesAfter (r.tasks.get i).taskOrder r.tasks := by
    unfold resetChangesAfter
    rw [filter_set_of_not i.isLt]
    · simp
    · simp
  unfold applyTaskStatus
  dsimp only
  split
  · rw [← untouched, List.append_assoc]
    rfl
  · exact (List.append_nil _).symm

theorem statusAt_applyTaskStatus (i : Fin r.tasks.length) (status : TaskStatus)
    (elsewhere : slot ≠ .task i)
    (calm : isRecovery r.status status = true →
      slot ∉ IdSlot.mission :: r.slotsBehind (r.tasks.get i).taskOrder) :
    r.statusAt slot = (r.applyTaskStatus i status).1.statusAt slot := by
  have absent {j : Nat} (place : r.tasks[j]? = none) :
      (r.applyTaskStatus i status).1.tasks[j]? = none := by
    rw [List.getElem?_eq_none_iff, length_applyTaskStatus]
    exact List.getElem?_eq_none_iff.mp place
  have outside {j : Nat} {t : MissionTask} (place : r.tasks[j]? = some t)
      (member : slot ∈ t.slots j) :
      ¬ (isRecovery r.status status = true ∧ (r.tasks.get i).taskOrder < t.taskOrder) :=
    fun again =>
      calm again.1 (List.mem_cons_of_mem _ (mem_slotsBehind.mpr ⟨j, t, place, again.2, member⟩))
  cases slot with
  | mission =>
    have idle : ¬ isRecovery r.status status = true :=
      fun recovery => calm recovery List.mem_cons_self
    rw [statusAt, statusAt, status_applyTaskStatus, if_neg idle]
  | task j =>
    have other : ¬ i.val = j := fun same => elsewhere (congrArg IdSlot.task same.symm)
    cases place : r.tasks[j]? with
    | none => rw [statusAt, statusAt, place, absent place]
    | some t =>
      have kept := outside place (mem_slots.mpr (.inl rfl))
      rw [statusAt, statusAt, r.getElem?_applyTaskStatus i status place, if_neg other,
        if_neg kept, place]
  | step j k =>
    cases place : r.tasks[j]? with
    | none => rw [statusAt, statusAt, place, absent place]
    | some t =>
      rw [statusAt, statusAt, r.getElem?_applyTaskStatus i status place, place, Option.bind_some,
        Option.bind_some]
      split
      · rfl
      · split
        · rename_i again
          cases step : t.inspections[k]? with
          | none => rw [MissionTask.reset, List.getElem?_map, step, Option.map_none,
            Option.map_none, Option.map_none]
          | some inspection =>
            exact absurd again (outside place (mem_slots.mpr (.inr ⟨k, inspection, step, rfl⟩)))
        · rfl

theorem differs_applyTaskStatus (r : MissionRun) (i : Fin r.tasks.length) (status : TaskStatus) :
    r.Differs (r.applyTaskStatus i status).1 (r.applyTaskStatus i status).2 [.task i]
      (.mission :: r.slotsBehind (r.tasks.get i).taskOrder) where
  run := by
    unfold applyTaskStatus
    dsimp only
    split <;> rfl
  changes := by
    have place : r.tasks[i.val]? = some (r.tasks.get i) := List.getElem?_eq_getElem i.isLt
    have place' := r.getElem?_applyTaskStatus i status place
    rw [if_pos rfl] at place'
    have mission := r.status_applyTaskStatus i status
    have absent := task_not_mem_reset r i
    rw [changes_applyTaskStatus]
    congr 1
    · rw [List.filterMap_eq_flatMap_toList, List.flatMap_singleton,
        toList_changeAt_task place place']
    · by_cases recovery : isRecovery r.status status = true
      · rw [if_pos recovery] at mission
        rw [if_pos recovery, List.filterMap_eq_flatMap_toList, List.flatMap_cons,
          toList_changeAt_mission, mission, ← List.filterMap_eq_flatMap_toList, entries_behind]
        intro j t there behind
        have other : i.val ≠ j := by
          rintro rfl
          cases getElem_eq_of_getElem? r there
          exact UInt32.lt_irrefl _ behind
        rw [r.getElem?_applyTaskStatus i status there, if_neg other, if_pos ⟨recovery, behind⟩]
      · rw [if_neg recovery, eq_comm, List.filterMap_eq_nil_iff]
        intro slot member
        have elsewhere : slot ≠ .task i := by
          rintro rfl
          exact absent member
        exact changeAt_of_same
          (r.statusAt_applyTaskStatus i status elsewhere fun again => absurd again recovery)
  once := by
    rw [List.singleton_append, List.nodup_cons]
    exact ⟨task_not_mem_reset r i, nodup_reset r _⟩
  complete slot differs := by
    by_contra unlisted
    rw [List.singleton_append, List.mem_cons, not_or] at unlisted
    exact differs (r.statusAt_applyTaskStatus i status unlisted.1 fun _ => unlisted.2)

theorem changeAt_of_differs (cause : ChangeCause)
    (written : changed = r.withStatuses changed.statuses)
    (differs : r.statusAt slot ≠ changed.statusAt slot) :
    ∃ target old new, r.targetAt slot = some target ∧ r.statusAt slot = some old ∧
      changed.statusAt slot = some new ∧ old ≠ new ∧
      r.changeAt changed cause slot = some ⟨target, old.text, new.text, cause⟩ := by
  have there := r.targetAt_isSome slot
  have after : changed.statusAt slot = (r.statusAt slot).map fun _ => changed.statuses.at slot := by
    conv_lhs => rw [written, statusAt_withStatuses]
  cases held : r.statusAt slot with
  | none =>
    rw [held, Option.map_none] at after
    exact absurd (held.trans after.symm) differs
  | some old =>
    rw [held, Option.map_some] at after
    rw [held] at there
    obtain ⟨target, named⟩ := Option.isSome_iff_exists.mp there
    have other : old ≠ changed.statuses.at slot := by
      intro same
      exact differs (by rw [held, after, same])
    refine ⟨target, old, _, named, rfl, after, other, ?_⟩
    simp only [changeAt, named, held, after, Option.bind_eq_bind, Option.bind_some, other, if_false]

theorem Differs.isNoop_iff {report : TransitionReport} {reported reset : List StatusSlot}
    (difference : r.Differs changed report reported reset)
    (written : changed = r.withStatuses changed.statuses) : report.isNoop = true ↔ changed = r := by
  rw [TransitionReport.isNoop, List.isEmpty_iff, difference.changes]
  constructor
  · intro nothing
    obtain ⟨unreported, unreset⟩ := List.append_eq_nil_iff.mp nothing
    apply eq_of_statusAt written
    intro slot
    by_contra differs
    rcases List.mem_append.mp (difference.complete slot differs) with member | member
    · obtain ⟨_, _, _, _, _, _, _, entry⟩ := changeAt_of_differs .reported written differs
      cases (List.filterMap_eq_nil_iff.mp unreported slot member).symm.trans entry
    · obtain ⟨_, _, _, _, _, _, _, entry⟩ := changeAt_of_differs .recoveryReset written differs
      cases (List.filterMap_eq_nil_iff.mp unreset slot member).symm.trans entry
  · intro same
    have silent (cause : ChangeCause) (slots : List StatusSlot) :
        slots.filterMap (r.changeAt changed cause) = [] := by
      rw [List.filterMap_eq_nil_iff]
      intro slot _
      exact changeAt_of_same (by rw [same])
    rw [silent, silent, List.append_nil]

theorem isRecovery_iff {mission : MissionStatus} {reported : TaskStatus} :
    isRecovery mission reported = true ↔ reported = .inProgress ∧ mission ≠ .ongoing := by
  simp [isRecovery, MissionStatus.isActive]

theorem recoveryTriggered_applyTaskStatus (r : MissionRun) (i : Fin r.tasks.length)
    (status : TaskStatus) :
    (r.applyTaskStatus i status).2.recoveryTriggered = isRecovery r.status status := by
  unfold applyTaskStatus
  dsimp only
  split
  · rename_i recovery
    exact recovery.symm
  · rename_i idle
    exact (Bool.not_eq_true _ ▸ idle).symm

theorem recovery_iff_reset (r : MissionRun) (i : Fin r.tasks.length) (status : TaskStatus) :
    isRecovery r.status status = true ↔
    ∃ c ∈ (r.applyTaskStatus i status).2.changes, c.cause = .recoveryReset := by
  rw [changes_applyTaskStatus]
  constructor
  · intro recovery
    have idle : r.status.text ≠ MissionStatus.ongoing.text :=
      fun same => (isRecovery_iff.mp recovery).2 (MissionStatus.text_injective.mp same)
    refine ⟨⟨.mission, r.status.text, MissionStatus.ongoing.text, .recoveryReset⟩, ?_, rfl⟩
    rw [if_pos recovery, StatusChange.between, StatusChange.between, if_neg idle]
    simp
  · rintro ⟨c, member, reset⟩
    by_contra idle
    rw [if_neg idle, List.append_nil, StatusChange.between] at member
    split at member
    · cases member
    · rw [List.mem_singleton.mp member] at reset
      cases reset

/-- Each of the three transitions reports the difference that it makes: a mission or an inspection
at most its own entry; a task its own entry first, and if it is in progress under a mission that is
not ongoing, then the mission and the tasks of greater order with their inspections. A report tells
of a recovery when there is one, which is when it has an entry of a reset, and it is empty when the
run is as it was. -/
theorem transition_reports_difference (r : MissionRun) :
    (∀ status, ∃ changed report, r.applyMissionStatus status = (changed, report) ∧
      r.Differs changed report [.mission] [] ∧ report.recoveryTriggered = false ∧
      (report.isNoop = true ↔ changed = r)) ∧
    (∀ (i : Fin r.tasks.length) (status : TaskStatus), ∃ changed report,
      r.applyTaskStatus i status = (changed, report) ∧
      r.Differs changed report [.task i] (.mission :: r.slotsBehind (r.tasks.get i).taskOrder) ∧
      (report.recoveryTriggered = true ↔ status = .inProgress ∧ r.status ≠ .ongoing) ∧
      (report.recoveryTriggered = true ↔ ∃ c ∈ report.changes, c.cause = .recoveryReset) ∧
      (report.isNoop = true ↔ changed = r)) ∧
    ∀ (i : Fin r.tasks.length) (k : Fin (r.tasks.get i).inspections.length)
      (status : InspectionStatus),
      ∃ changed report, r.applyStepStatus i k status = (changed, report) ∧
        r.Differs changed report [.step i k] [] ∧ report.recoveryTriggered = false ∧
        (report.isNoop = true ↔ changed = r) := by
  refine ⟨?_, ?_, ?_⟩
  · intro status
    have difference := r.differs_applyMissionStatus status
    exact ⟨_, _, rfl, difference, rfl, difference.isNoop_iff (r.applyMissionStatus_written status)⟩
  · intro i status
    have difference := r.differs_applyTaskStatus i status
    have triggered := r.recoveryTriggered_applyTaskStatus i status
    refine ⟨(r.applyTaskStatus i status).1, (r.applyTaskStatus i status).2, rfl, difference, ?_, ?_,
      difference.isNoop_iff (r.applyTaskStatus_written i status)⟩
    · rw [triggered, isRecovery_iff]
    · rw [triggered, r.recovery_iff_reset i status]
  · intro i k status
    have difference := r.differs_applyStepStatus i k status
    exact ⟨_, _, rfl, difference, rfl, difference.isNoop_iff (r.applyStepStatus_written i k status)⟩

end MissionRun
end MissionTracking
