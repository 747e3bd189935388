import MissionTracking.Proofs.Feed.Redelivery
import MissionTracking.Proofs.Text.Comparison

/-!
How an event is answered. The word for the status comes first, whatever is stored; then the ids are
followed from the mission down, and the first that leads nowhere is the answer. Only an event that
is applied leaves a trace, and only in the run of its mission.
-/
namespace MissionTracking
open Text

def Level.words : Level → List String
  | .mission =>
    ["not_started", "in_progress", "paused", "aborted", "cancelled", "failed", "successful",
      "partially_successful"]
  | .task =>
    ["not_started", "in_progress", "successful", "partially_successful", "failed", "cancelled"]
  | .step => ["not_started", "in_progress", "successful", "failed", "cancelled"]

/-- A text is a word of the level, in any case and with white space around it. -/
def Level.Knows (l : Level) (text : String) : Prop :=
  ∃ core, IsCore core text.toList ∧ ∃ word ∈ l.words, SameText core word.toList

/-- The first task that carries an external id. -/
def MissionRun.FirstTask (r : MissionRun) (externalId : String) (t : MissionTask) : Prop :=
  ∃ before after, r.tasks = before ++ t :: after ∧ t.externalTaskId = some externalId ∧
    ∀ u ∈ before, u.externalTaskId ≠ some externalId

/-- An event that leads nowhere in the run of its mission, and the ids down to the one that nothing
carries. -/
inductive MissionRun.Misses (r : MissionRun) : StatusEvent → Unresolved → Prop where
  | task {m x status : String} (nowhere : ∀ t ∈ r.tasks, t.externalTaskId ≠ some x) :
      Misses r (.task m x status) (.task m x)
  | taskOfStep {m x y status : String} (nowhere : ∀ t ∈ r.tasks, t.externalTaskId ≠ some x) :
      Misses r (.step m x y status) (.task m x)
  | step {m x y status : String} {t : MissionTask} (first : r.FirstTask x t)
      (nowhere : ∀ i ∈ t.inspections, i.externalStepId ≠ some y) :
      Misses r (.step m x y status) (.step m x y)

inductive Store.Misses (s : Store) (e : StatusEvent) : Unresolved → Prop where
  | mission (nowhere : ∀ r ∈ s.toList, r.externalMissionId ≠ some e.externalMissionId) :
      Misses s e (.mission e.externalMissionId)
  | within {r : MissionRun} {reference : Unresolved} (stored : r ∈ s.toList)
      (carries : r.externalMissionId = some e.externalMissionId) (misses : r.Misses e reference) :
      Misses s e reference

variable {e : StatusEvent} {report : StatusReport} {reference : Unresolved}

theorem Level.knows_iff {l : Level} {text : String} :
    l.Knows text ↔ Vocabulary.normalized text ∈ l.words := by
  have lower : ∀ word ∈ l.words, foldCase word = word := by cases l <;> decide
  simp only [Knows, isCore_iff, exists_eq_left]
  have same (word : String) (member : word ∈ l.words) :
      SameText (trim text.toList) word.toList ↔ Vocabulary.normalized text = word := by
    have folded := foldCase_eq_iff (s := trimmed text) (t := word)
    rw [lower word member, trimmed, String.toList_ofList] at folded
    exact folded.symm
  constructor
  · rintro ⟨word, member, alike⟩
    rwa [(same word member).mp alike]
  · intro member
    exact ⟨_, member, (same _ member).mpr rfl⟩

theorem Vocabulary.mission_words : missionWords.map Prod.fst = Level.mission.words := rfl

theorem Vocabulary.task_words : taskWords.map Prod.fst = Level.task.words := rfl

theorem Vocabulary.step_words : stepWords.map Prod.fst = Level.step.words := rfl

theorem Vocabulary.meaning_cases {level : Level} {words : List (String × α)}
    (spelled : words.map Prod.fst = level.words) (value : String) :
    (level.Knows value ∧ ∃ status, meaning level words value = .ok status) ∨
    (¬ level.Knows value ∧ meaning level words value = .error (.unknownStatus level value)) := by
  rw [Level.knows_iff, ← spelled]
  cases found : words.lookup (normalized value) with
  | none =>
    refine .inr ⟨?_, by simp only [meaning, found]⟩
    intro member
    obtain ⟨w, entry, same⟩ := List.mem_map.mp member
    simpa [same] using List.lookup_eq_none_iff.mp found w entry
  | some status =>
    refine .inl ⟨?_, status, by simp only [meaning, found]⟩
    have isSome : (words.lookup (normalized value)).isSome = true := by
      rw [found, Option.isSome_some]
    obtain ⟨w, entry, same⟩ := List.lookup_isSome_iff.mp isSome
    exact List.mem_map.mpr ⟨w, entry, (beq_iff_eq.mp same).symm⟩

/-- An event is read exactly when its status is a word of its level, and is refused with that status
otherwise. -/
theorem StatusReport.ofEvent_cases (e : StatusEvent) :
    (e.level.Knows e.status ∧ ∃ report, ofEvent e = .ok report) ∨
    (¬ e.level.Knows e.status ∧ ofEvent e = .error (.unknownStatus e.level e.status)) := by
  have named {α : Type} {read : Except TrackingError α} {level : Level} {value : String}
      (make : α → StatusReport)
      (looked : (level.Knows value ∧ ∃ status, read = .ok status) ∨
        (¬ level.Knows value ∧ read = .error (.unknownStatus level value))) :
      (level.Knows value ∧ ∃ report, read.map make = .ok report) ∨
        (¬ level.Knows value ∧ read.map make = .error (.unknownStatus level value)) := by
    rcases looked with ⟨known, status, rfl⟩ | ⟨unknown, rfl⟩
    · exact .inl ⟨known, make status, rfl⟩
    · exact .inr ⟨unknown, rfl⟩
  cases e with
  | mission m s =>
    simp only [ofEvent, Vocabulary.missionStatus, StatusEvent.level, StatusEvent.status]
    exact named .mission (Vocabulary.meaning_cases Vocabulary.mission_words s)
  | task m t s =>
    simp only [ofEvent, Vocabulary.taskStatus, StatusEvent.level, StatusEvent.status]
    exact named (.task t) (Vocabulary.meaning_cases Vocabulary.task_words s)
  | step m t i s =>
    simp only [ofEvent, Vocabulary.stepStatus, StatusEvent.level, StatusEvent.status]
    exact named (.step t i) (Vocabulary.meaning_cases Vocabulary.step_words s)

namespace MissionRun
variable {r : MissionRun} {x : String}

theorem findTask?_eq_none : r.findTask? x = none ↔ ∀ t ∈ r.tasks, t.externalTaskId ≠ some x := by
  simp [findTask?, List.findFinIdx?_eq_none_iff]

theorem firstTask_iff {t : MissionTask} :
    r.FirstTask x t ↔ ∃ i, r.findTask? x = some i ∧ r.tasks.get i = t := by
  have found :
      r.tasks.find? (fun t => t.externalTaskId == some x) = (r.findTask? x).map r.tasks.get :=
    List.find?_eq_map_findFinIdx?_getElem
  have first : r.FirstTask x t ↔ r.tasks.find? (fun t => t.externalTaskId == some x) = some t := by
    simp only [FirstTask, List.find?_eq_some_iff_append, beq_iff_eq, Bool.not_eq_true',
      beq_eq_false_iff_ne]
    exact ⟨fun ⟨before, after, split, carries, others⟩ => ⟨carries, before, after, split, others⟩,
      fun ⟨carries, before, after, split, others⟩ => ⟨before, after, split, carries, others⟩⟩
  rw [first, found, Option.map_eq_some_iff]

theorem findStep?_eq_none {t : MissionTask} {y : String} :
    t.findStep? y = none ↔ ∀ i ∈ t.inspections, i.externalStepId ≠ some y := by
  simp [MissionTask.findStep?, List.findFinIdx?_eq_none_iff]

theorem misses_task_iff {m status : String} :
    r.Misses (.task m x status) reference ↔ r.findTask? x = none ∧ reference = .task m x := by
  rw [findTask?_eq_none]
  constructor
  · rintro ⟨nowhere⟩
    exact ⟨nowhere, rfl⟩
  · rintro ⟨nowhere, rfl⟩
    exact .task nowhere

theorem misses_step_iff {m y status : String} :
    r.Misses (.step m x y status) reference ↔ (r.findTask? x = none ∧ reference = .task m x) ∨
      ∃ i, r.findTask? x = some i ∧ (r.tasks.get i).findStep? y = none ∧
      reference = .step m x y := by
  simp only [findTask?_eq_none, findStep?_eq_none]
  constructor
  · intro misses
    cases misses with
    | taskOfStep nowhere => exact .inl ⟨nowhere, rfl⟩
    | step first nowhere =>
      obtain ⟨i, found, rfl⟩ := firstTask_iff.mp first
      exact .inr ⟨i, found, nowhere, rfl⟩
  · rintro (⟨nowhere, rfl⟩ | ⟨i, found, nowhere, rfl⟩)
    · exact .taskOfStep nowhere
    · exact .step (firstTask_iff.mpr ⟨i, found, rfl⟩) nowhere

theorem misses_iff (read : StatusReport.ofEvent e = .ok report) :
    r.Misses e reference ↔ ∃ miss, r.receive report = .error miss ∧
      reference = .ofMiss e.externalMissionId report miss := by
  cases e with
  | mission m s =>
    rw [StatusReport.ofEvent] at read
    obtain ⟨status, _, rfl⟩ := map_ok_iff.mp read
    constructor
    · rintro ⟨⟩
    · rintro ⟨_, received, _⟩
      cases received
  | task m x s =>
    rw [StatusReport.ofEvent] at read
    obtain ⟨status, _, rfl⟩ := map_ok_iff.mp read
    rw [misses_task_iff]
    simp only [receive]
    cases r.findTask? x with
    | none => simp [Unresolved.ofMiss, StatusEvent.externalMissionId]
    | some i => simp
  | step m x y s =>
    rw [StatusReport.ofEvent] at read
    obtain ⟨status, _, rfl⟩ := map_ok_iff.mp read
    rw [misses_step_iff]
    simp only [receive]
    cases r.findTask? x with
    | none => simp [Unresolved.ofMiss, StatusEvent.externalMissionId]
    | some i =>
      cases step : (r.tasks.get i).findStep? y with
      | none =>
        rw [List.get_eq_getElem] at step
        simp [step, Unresolved.ofMiss, StatusEvent.externalMissionId]
      | some k =>
        simp only [List.get_eq_getElem] at step
        simp [step]

theorem handle_answer (r : MissionRun) (known : e.level.Knows e.status) :
    (∀ reference, (r.handle e).2 = .ok (.notFound reference) ↔ r.Misses e reference) ∧
      ∀ error, (r.handle e).2 ≠ .error error := by
  obtain ⟨_, report, read⟩ | ⟨unknown, _⟩ := StatusReport.ofEvent_cases e
  · simp only [misses_iff read, handle, read]
    cases received : r.receive report with
    | error miss => simp [eq_comm]
    | ok pair => simp
  · exact absurd known unknown

end MissionRun

namespace Store.Coherent
variable {s : Store}

theorem carrier?_eq_none_iff (h : s.Coherent) {m : String} :
    s.carrier? m = none ↔ ∀ r ∈ s.toList, r.externalMissionId ≠ some m := by
  rw [Option.eq_none_iff_forall_ne_some]
  constructor
  · intro missing r stored held
    exact missing r (h.carrier?_eq_some_iff.mpr ⟨(h.mem_toList_iff r).mp stored, held⟩)
  · intro nowhere r carried
    obtain ⟨found, held⟩ := h.carrier?_eq_some_iff.mp carried
    exact nowhere r ((h.mem_toList_iff r).mpr found) held

theorem misses_of_carrier? (h : s.Coherent) {r : MissionRun}
    (carried : s.carrier? e.externalMissionId = some r) :
    s.Misses e reference ↔ r.Misses e reference := by
  obtain ⟨found, held⟩ := h.carrier?_eq_some_iff.mp carried
  have stored := (h.mem_toList_iff r).mpr found
  constructor
  · intro misses
    cases misses with
    | mission nowhere => exact absurd held (nowhere r stored)
    | within stored' held' misses =>
      have carried' := h.carrier?_eq_some_iff.mpr ⟨(h.mem_toList_iff _).mp stored', held'⟩
      cases carried.symm.trans carried'
      exact misses
  · exact .within stored held

theorem receive_answer (h : s.Coherent) (known : e.level.Knows e.status) :
    (∀ reference, (s.receive e).2 = .ok (.notFound reference) ↔ s.Misses e reference) ∧
      ∀ error, (s.receive e).2 ≠ .error error := by
  rw [receive_answer_eq]
  cases carried : s.carrier? e.externalMissionId with
  | some r =>
    simp only [h.misses_of_carrier? carried]
    exact r.handle_answer known
  | none =>
    obtain ⟨_, report, read⟩ | ⟨unknown, _⟩ := StatusReport.ofEvent_cases e
    · have nowhere := h.carrier?_eq_none_iff.mp carried
      simp only [missionStep, StatusEvent.unclaimed, read, Except.map]
      refine ⟨fun reference => ⟨?_, ?_⟩, fun error refused => by cases refused⟩
      · rintro ⟨⟩
        exact .mission nowhere
      · intro misses
        cases misses with
        | mission => rfl
        | within stored held => exact absurd held (nowhere _ stored)
    · exact absurd known unknown

end Store.Coherent

namespace Tracker

theorem handle_tracker_of_silent {t : Tracker} (h : t.store.Coherent) (sound : t.feed.Sound)
    (silent : e.announced (t.handle e).answer = []) : (t.handle e).tracker = t := by
  rw [handle_serves.answer] at silent
  rw [handle_commits.tracker t e sound, commit_of_silent h sound silent]

/-- An event is refused exactly when its status is no word of its level; it leads nowhere exactly
when an id of it does, and the answer names the first; and it is applied otherwise. Only then does
the tracker change, and in no run but the one that carries the mission. -/
theorem handle_classified {t : Tracker} (reachable : t.store.Reachable) (fed : t.feed.Reachable)
    (e : StatusEvent) :
    (∀ error, (t.handle e).answer = .error error ↔
      ¬ e.level.Knows e.status ∧ error = .unknownStatus e.level e.status) ∧
    (∀ reference, (t.handle e).answer = .ok (.notFound reference) ↔
      e.level.Knows e.status ∧ t.store.Misses e reference) ∧
    ((∃ transition, (t.handle e).answer = .ok (.applied transition)) ↔
      e.level.Knows e.status ∧ ∀ reference, ¬ t.store.Misses e reference) ∧
    ((∀ transition, (t.handle e).answer ≠ .ok (.applied transition)) → (t.handle e).tracker = t) ∧
    (∀ id, ¬ t.store.Carries id e.externalMissionId →
      (t.handle e).tracker.store.find? id = t.store.find? id) ∧
    (∀ id, t.store.Carries id e.externalMissionId →
      (t.handle e).tracker.store.Carries id e.externalMissionId) ∧
    (t.handle e).tracker.store.index = t.store.index := by
  have h := reachable.coherent
  have unchanged : (∀ transition, (t.handle e).answer ≠ .ok (.applied transition)) →
      (t.handle e).tracker = t := by
    intro refused
    refine handle_tracker_of_silent h fed.sound ?_
    cases answered : (t.handle e).answer with
    | error error => rfl
    | ok outcome =>
      cases outcome with
      | applied transition => exact absurd answered (refused transition)
      | notFound reference => rfl
  have index : (t.handle e).tracker.store.index = t.store.index := by
    rw [handle_serves.store, h.index_receive]
  have others (id : String) (other : ¬ t.store.Carries id e.externalMissionId) :
      (t.handle e).tracker.store.find? id = t.store.find? id := by
    rw [handle_serves.store, h.find?_receive]
    cases found : t.store.find? id with
    | none => rfl
    | some r => rw [Option.map_some, if_neg fun held => other ⟨r, found, held⟩]
  have carries (id : String) (owner : t.store.Carries id e.externalMissionId) :
      (t.handle e).tracker.store.Carries id e.externalMissionId := by
    have entry := h.indexed.mpr owner
    rw [handle_serves.store]
    rw [← h.index_receive e] at entry
    exact (h.receive e).indexed.mp entry
  obtain ⟨known, report, read⟩ | ⟨unknown, refused⟩ := StatusReport.ofEvent_cases e
  · obtain ⟨misses, none_refused⟩ := h.receive_answer known
    rw [← handle_serves.answer] at misses none_refused
    refine ⟨fun error => ?_, fun reference => ?_, ?_, unchanged, others, carries, index⟩
    · simp only [none_refused, known, not_true_eq_false, false_and]
    · simp only [misses, known, true_and]
    · simp only [known, true_and, ← misses]
      cases answered : (t.handle e).answer with
      | error error => exact absurd answered (none_refused error)
      | ok outcome => cases outcome <;> simp
  · have answer : (t.handle e).answer = .error (.unknownStatus e.level e.status) := by
      rw [handle_serves.answer, Store.receive, Store.handle, refused]
      rfl
    refine ⟨fun error => ?_, fun reference => ?_, ?_, unchanged, others, carries, index⟩
    · simp only [answer, unknown, not_false_eq_true, true_and, Except.error.injEq, eq_comm]
    · simp only [answer, unknown, false_and, reduceCtorEq]
    · simp only [answer, unknown, false_and, reduceCtorEq, exists_false]

/-- A step that its task does not have, reported with a word of the level that is written in another
case. -/
theorem handle_classified_lens :
    (Observer.watched.handle (.step "deck" "valves" "lens" " Successful ")).answer =
        .ok (.notFound (.step "deck" "valves" "lens")) ∧
      (Observer.watched.handle (.step "deck" "valves" "lens" " Successful ")).tracker =
      Observer.watched := by
  have reachable : Observer.watched.store.Reachable :=
    .call (.create valveCheck : StoreCall Unit) .empty
  obtain ⟨_, misses, _, unchanged, _⟩ :=
    handle_classified reachable (.ofCapacity 4) (.step "deck" "valves" "lens" " Successful ")
  have known : Level.step.Knows " Successful " := Level.knows_iff.mpr (by decide +kernel)
  have stored : valveCheck ∈ Observer.watched.store.toList := by decide +kernel
  have first : valveCheck.FirstTask "valves" (valveCheck.tasks[0]) := ⟨[], [], rfl, rfl, nofun⟩
  have answer := (misses _).mpr ⟨known, .within stored rfl (.step first (by decide +kernel))⟩
  exact ⟨answer, unchanged fun _ applied => by cases answer.symm.trans applied⟩

end Tracker
end MissionTracking
