import MissionTracking.Proofs.Feed.Observer

/-!
An event that is delivered again. What a report wrote holds when the report comes back: its slot has
the reported status, and the mission that it made ongoing does not recover once more. So an event
that was applied is applied again and changes nothing, and any other is answered as before. How
often an event comes before the next one does is not seen, neither in the store nor in the feed.
-/
namespace MissionTracking

/-- Each event comes once or more, and then the next one does. -/
inductive Redelivered : List StatusEvent → List StatusEvent → Prop where
  | nil : Redelivered [] []
  | next {events deliveries : List StatusEvent} (e : StatusEvent)
      (rest : Redelivered events deliveries) :
      Redelivered (e :: events) (e :: deliveries)
  | again {e : StatusEvent} {events deliveries : List StatusEvent}
      (delivered : Redelivered (e :: events) (e :: deliveries)) :
      Redelivered (e :: events) (e :: e :: deliveries)

/-- The answer to an event that was answered before. -/
def Outcome.again : Outcome → Outcome
  | .applied transition => .applied ⟨transition.missionRunId, [], false⟩
  | .notFound reference => .notFound reference

def announcements (events : List StatusEvent) (answers : List (Except TrackingError Outcome)) :
    List Notification :=
  (events.zip answers).flatMap fun served => served.1.announced served.2

theorem announcements_cons (e : StatusEvent) (events : List StatusEvent)
    (answer : Except TrackingError Outcome) (answers : List (Except TrackingError Outcome)) :
    announcements (e :: events) (answer :: answers) =
    e.announced answer ++ announcements events answers := rfl

theorem StatusEvent.announced_again (e : StatusEvent) (answer : Except TrackingError Outcome) :
    e.announced (answer.map Outcome.again) = [] := by
  cases answer with
  | error error => rfl
  | ok outcome => cases outcome <;> rfl

theorem map_again_of_refused {answer : Except TrackingError Outcome}
    (refused : ∀ transition, answer ≠ .ok (.applied transition)) :
    answer.map Outcome.again = answer := by
  cases answer with
  | error error => rfl
  | ok outcome =>
    cases outcome with
    | applied transition => exact absurd rfl (refused transition)
    | notFound reference => rfl

namespace MissionRun
variable {r changed : MissionRun} {report : StatusReport} {transition : TransitionReport}

/-- What a report wrote is what it repeats. A task in progress has made its mission ongoing, if it
was not. -/
theorem repeats_of_receive (received : r.receive report = .ok (changed, transition)) :
    report.Repeats changed ∧ ¬ report.Recovers changed := by
  have written := r.after_eq_withStatuses report
  rw [after_of_receive received] at written
  subst written
  obtain ⟨status, rfl, _⟩ | ⟨t, status, i, rfl, found, _⟩ |
      ⟨t, s, status, i, k, rfl, found, step, _⟩ :=
    receive_ok received
  · exact ⟨rfl, not_false⟩
  · have position := r.taskPosition_of_found found
    have place : r.tasks[i.val]? = some (r.tasks.get i) := List.getElem?_eq_getElem i.isLt
    refine ⟨⟨i, ?_, ?_⟩, ?_⟩
    · rw [taskPosition_withStatuses, position]
    · rw [statusAt_withStatuses]
      simp only [statusAt, place, Option.map_some, Statuses.at, Statuses.after, taskWrite, position,
        if_true, Option.getD_some]
    · rintro ⟨rfl, stalled⟩
      apply stalled
      simp only [withStatuses, Statuses.after, missionWrite, position, if_true, Option.map_some,
        Option.getD_some]
  · have position : r.stepPosition t s = some (i.val, k.val) := by
      rw [stepPosition_eq_find, found, Option.bind_some, step, Option.map_some]
    have place : r.tasks[i.val]? = some (r.tasks.get i) := List.getElem?_eq_getElem i.isLt
    have place' : (r.tasks.get i).inspections[k.val]? = some (r.tasks.get i).inspections[k] :=
      List.getElem?_eq_getElem k.isLt
    refine ⟨⟨i, k, ?_, ?_⟩, not_false⟩
    · rw [stepPosition_withStatuses, position]
    · rw [statusAt_withStatuses]
      simp only [statusAt, place, place', Option.bind_some, Option.map_some, Statuses.at,
        Statuses.after, stepWrite, position, if_true, Option.getD_some]

theorem recoveryTriggered_of_receive (received : r.receive report = .ok (changed, transition)) :
    transition.recoveryTriggered = true ↔ report.Recovers r := by
  obtain ⟨status, rfl, applied⟩ | ⟨t, status, i, rfl, _, applied⟩ |
    ⟨t, s, status, i, k, rfl, _, _, applied⟩ := receive_ok received
  · obtain ⟨-, rfl⟩ := Prod.ext_iff.mp applied
    exact iff_of_false Bool.false_ne_true not_false
  · obtain ⟨-, rfl⟩ := Prod.ext_iff.mp applied
    rw [recoveryTriggered_applyTaskStatus]
    exact isRecovery_iff
  · obtain ⟨-, rfl⟩ := Prod.ext_iff.mp applied
    exact iff_of_false Bool.false_ne_true not_false

theorem receive_of_repeats (repeats : report.Repeats r) (calm : ¬ report.Recovers r) :
    r.receive report = .ok (r, ⟨r.id, [], false⟩) := by
  obtain ⟨changed, ⟨missionRunId, changes, recoveryTriggered⟩, received⟩ :=
    exists_receive_of_repeats repeats
  have silent : changes = [] := (changes_eq_nil_iff_of_repeats received repeats).mpr calm
  obtain ⟨written, _, _, difference⟩ := receive_differs received
  have same : changed = r :=
    (difference.isNoop_iff written).mp (by rw [TransitionReport.isNoop, silent]; rfl)
  have run : missionRunId = r.id := difference.run
  have idle : recoveryTriggered = false :=
    Bool.eq_false_iff.mpr fun triggered =>
      calm ((recoveryTriggered_of_receive received).mp triggered)
  rw [received, same, run, silent, idle]

theorem receive_again (received : r.receive report = .ok (changed, transition)) :
    changed.receive report = .ok (changed, ⟨transition.missionRunId, [], false⟩) := by
  obtain ⟨_, _, _, difference⟩ := receive_differs received
  have id : changed.id = transition.missionRunId := by
    rw [← after_of_receive received, after_id, difference.run]
  obtain ⟨repeats, calm⟩ := repeats_of_receive received
  rw [receive_of_repeats repeats calm, id]

theorem handle_again (r : MissionRun) (e : StatusEvent) :
    (r.handle e).1.handle e = ((r.handle e).1, (r.handle e).2.map Outcome.again) := by
  cases read : StatusReport.ofEvent e with
  | error error => simp only [handle, read, Except.map]
  | ok report =>
    cases received : r.receive report with
    | error miss => simp only [handle, read, received, Except.map, Outcome.again]
    | ok pair =>
      obtain ⟨changed, transition⟩ := pair
      simp only [handle, read, received, receive_again received, Except.map, Outcome.again]

end MissionRun

theorem StatusEvent.unclaimed_again (e : StatusEvent) :
    e.unclaimed.map Outcome.again = e.unclaimed := by
  unfold unclaimed
  cases StatusReport.ofEvent e <;> rfl

namespace Store.Coherent
variable {s : Store}

theorem receive_again (h : s.Coherent) (e : StatusEvent) :
    (s.receive e).1.receive e = ((s.receive e).1, (s.receive e).2.map Outcome.again) := by
  cases resolved : s.resolve? e.externalMissionId with
  | none => simp only [receive_of_unresolved resolved, e.unclaimed_again]
  | some pair =>
    obtain ⟨id, r⟩ := pair
    obtain ⟨found, held⟩ := h.resolve?_eq_some_iff.mp resolved
    have stored : (s.receive e).1.find? id = some (r.handle e).1 := by
      rw [h.find?_receive, found, Option.map_some, if_pos held]
    have resolved' : (s.receive e).1.resolve? e.externalMissionId = some (id, (r.handle e).1) :=
      (h.receive e).resolve?_eq_some_iff.mpr
        ⟨stored, by rw [MissionRun.handle_externalMissionId, held]⟩
    apply Prod.ext
    · rw [receive_store (h.receive e) resolved', r.handle_again, put_stored stored]
    · rw [Store.receive_answer resolved', r.handle_again, Store.receive_answer resolved]

theorem steps_redelivered (h : s.Coherent) {events deliveries : List StatusEvent}
    (delivered : Redelivered events deliveries) :
    (steps Store.receive s deliveries).1 = (steps Store.receive s events).1 ∧
      announcements deliveries (steps Store.receive s deliveries).2 =
        announcements events (steps Store.receive s events).2 := by
  induction delivered generalizing s with
  | nil => exact ⟨rfl, rfl⟩
  | next e rest ih =>
    obtain ⟨store, announced⟩ := ih (h.receive e)
    simp only [steps, announcements_cons]
    exact ⟨store, by rw [announced]⟩
  | again delivered ih =>
    rename_i e events deliveries
    obtain ⟨store, announced⟩ := ih h
    rw [← store, ← announced]
    simp only [steps, announcements_cons, h.receive_again, e.announced_again,
      List.nil_append, and_self]

end Store.Coherent

namespace Tracker
variable {serve : Tracker → StatusEvent → Reply (Except TrackingError Outcome)} {t : Tracker}

theorem publish_publish (t : Tracker) (ns ms : List Notification) :
    (t.publish ns).publish ms = t.publish (ns ++ ms) := by
  unfold publish
  by_cases on : t.publishes = true
  · simp only [on, if_true, Feed.publish_publish]
  · simp only [on, if_false, Bool.false_eq_true]

theorem publish_nil (sound : t.feed.Sound) : t.publish [] = t := by
  unfold publish
  split
  · rw [Feed.publish_nil sound]
  · rfl

theorem sound_publish (sound : t.feed.Sound) (ns : List Notification) :
    (t.publish ns).feed.Sound := by
  unfold publish
  split
  · exact sound.publish ns
  · exact sound

theorem publish_withStore (t : Tracker) (s : Store) (ns : List Notification) :
    { t.publish ns with store := s } = publish { t with store := s } ns := by
  unfold publish
  split <;> rfl

def commit (t : Tracker) (e : StatusEvent) : Tracker :=
  publish { t with store := (t.store.receive e).1 } (e.announced (t.store.receive e).2)

/-- A way to handle events commits what the store makes of each, and answers as the store does. -/
structure Commits
    (serve : Tracker → StatusEvent → Reply (Except TrackingError Outcome)) : Prop where
  tracker : ∀ t e, t.feed.Sound → (serve t e).tracker = t.commit e
  answer : ∀ t e, (serve t e).answer = (t.store.receive e).2

theorem handle_commits : Commits handle where
  tracker t e sound := by
    unfold handle commit Store.receive Store.handle
    cases StatusReport.ofEvent e with
    | error error => exact (publish_nil sound).symm
    | ok report => rfl
  answer := handle_serves.answer

theorem dispatch_commits : Commits dispatch where
  tracker t e sound := by
    have handled := handle_commits.tracker (t.enter e.externalMissionId) e sound
    unfold dispatch
    dsimp only
    rw [handled]
    unfold commit publish leave enter
    dsimp only
    split
    · rw [List.erase_cons_head]
    · rw [List.erase_cons_head]
  answer := dispatch_serves.answer

theorem commit_store (t : Tracker) (e : StatusEvent) : (t.commit e).store = (t.store.receive e).1 :=
  publish_store _ _

theorem sound_commit (sound : t.feed.Sound) (e : StatusEvent) : (t.commit e).feed.Sound :=
  sound_publish (t := { t with store := (t.store.receive e).1 }) sound _

theorem commit_of_silent {e : StatusEvent} (h : t.store.Coherent) (sound : t.feed.Sound)
    (silent : e.announced (t.store.receive e).2 = []) : t.commit e = t := by
  have store : (t.store.receive e).1 = t.store := (h.announced_eq_nil_iff e).mp silent
  rw [commit, silent, store]
  exact publish_nil sound

theorem commit_commit (h : t.store.Coherent) (sound : t.feed.Sound) (e : StatusEvent) :
    (t.commit e).commit e = t.commit e := by
  apply commit_of_silent
  · rw [commit_store]
    exact h.receive e
  · exact sound_commit sound e
  · rw [commit_store, h.receive_again, e.announced_again]

theorem Commits.again (commits : Commits serve) (h : t.store.Coherent) (sound : t.feed.Sound)
    (e : StatusEvent) :
    (serve (serve t e).tracker e).tracker = (serve t e).tracker ∧
      (serve (serve t e).tracker e).answer = (serve t e).answer.map Outcome.again := by
  rw [commits.tracker t e sound]
  constructor
  · rw [commits.tracker _ e (sound_commit sound e), commit_commit h sound e]
  · rw [commits.answer, commits.answer, commit_store, h.receive_again]

/-- The tracker after events: the store that received them, and all their notifications in the feed,
in order. -/
theorem Commits.steps_eq (commits : Commits serve) (sound : t.feed.Sound)
    (events : List StatusEvent) :
    steps (serving serve) t events =
      (publish { t with store := (steps Store.receive t.store events).1 }
        (announcements events (steps Store.receive t.store events).2),
      (steps Store.receive t.store events).2) := by
  induction events generalizing t with
  | nil =>
    have unchanged := publish_nil sound
    exact Prod.ext unchanged.symm rfl
  | cons e events ih =>
    have tracker := commits.tracker t e sound
    have rest := ih (sound_commit sound e)
    rw [commit_store] at rest
    simp only [steps, serving, tracker, commits.answer, rest, announcements_cons]
    rw [commit, publish_withStore, publish_publish]

/-- An event that comes a second time leaves the tracker as it is. If it was applied, with a
recovery or without, it is applied again, with no changes and without a recovery, and otherwise it
is answered as before. So when the events of a sequence each come once or more, one after the other,
the tracker ends as if each had come once, and it has published the same notifications. -/
theorem redelivery_unseen {t : Tracker} (reachable : t.store.Reachable) (fed : t.feed.Reachable)
    (way : serve = handle ∨ serve = dispatch) :
    (∀ e, ∃ once twice,
      serve t e = once ∧ serve once.tracker e = twice ∧ twice.tracker = once.tracker ∧
      (∀ transition, once.answer = .ok (.applied transition) →
        twice.answer = .ok (.applied ⟨transition.missionRunId, [], false⟩) ∧
        e.announced twice.answer = []) ∧
      ((∀ transition, once.answer ≠ .ok (.applied transition)) → twice.answer = once.answer)) ∧
    ∀ events deliveries, Redelivered events deliveries → ∃ last answers answers',
      steps (serving serve) t events = (last, answers) ∧
      steps (serving serve) t deliveries = (last, answers') ∧
      announcements deliveries answers' = announcements events answers ∧
      last.feed = (t.publish (announcements events answers)).feed := by
  have h := reachable.coherent
  have sound := fed.sound
  have commits : Commits serve := holds_of_way way handle_commits dispatch_commits
  constructor
  · intro e
    obtain ⟨tracker, answer⟩ := commits.again h sound e
    refine ⟨_, _, rfl, rfl, tracker, ?_, ?_⟩
    · intro transition applied
      rw [answer, e.announced_again, applied]
      exact ⟨rfl, rfl⟩
    · intro refused
      rw [answer, map_again_of_refused refused]
  · intro events deliveries delivered
    obtain ⟨store, announced⟩ := h.steps_redelivered delivered
    refine ⟨_, _, _, commits.steps_eq sound events, ?_, announced, ?_⟩
    · rw [commits.steps_eq sound deliveries, store, announced]
    · unfold publish
      split <;> rfl

/-- A task in progress makes its mission recover when it comes for the first time. What comes again
leaves no trace, and is not found if it was not found before. -/
theorem redelivery_unseen_valves :
    ∃ once twice, Observer.watched.handle (.task "deck" "valves" "in_progress") = once ∧
      once.tracker.handle (.task "deck" "valves" "in_progress") = twice ∧
      (∃ transition,
        once.answer = .ok (.applied transition) ∧ transition.recoveryTriggered = true) ∧
      twice.answer = .ok (.applied ⟨"run", [], false⟩) ∧ twice.tracker = once.tracker ∧
      ((Observer.watched.handle (.mission "roof" "paused")).tracker.handle
        (.mission "roof" "paused")).answer =
        .ok (.notFound (.mission "roof")) ∧
      (steps (serving handle) Observer.watched [.mission "deck" "paused",
        .task "deck" "valves" "in_progress", .task "deck" "valves" "in_progress",
        .task "deck" "valves" "in_progress"]).1 =
      (steps (serving handle) Observer.watched [.mission "deck" "paused",
        .task "deck" "valves" "in_progress"]).1 := by
  have reachable : Observer.watched.store.Reachable :=
    .call (.create valveCheck : StoreCall Unit) .empty
  have way : handle = handle ∨ handle = dispatch := .inl rfl
  obtain ⟨each, sequences⟩ := redelivery_unseen reachable (.ofCapacity 4) way
  obtain ⟨once, twice, first, second, tracker, applied, _⟩ :=
    each (.task "deck" "valves" "in_progress")
  have delivered : Redelivered [.mission "deck" "paused", .task "deck" "valves" "in_progress"]
      [.mission "deck" "paused", .task "deck" "valves" "in_progress",
        .task "deck" "valves" "in_progress", .task "deck" "valves" "in_progress"] :=
    .next _ (.again (.again (.next _ .nil)))
  obtain ⟨last, _, _, events, deliveries, _⟩ := sequences _ _ delivered
  obtain ⟨_, _, rfl, rfl, _, _, unknown⟩ := each (.mission "roof" "paused")
  have missing : (Observer.watched.handle (.mission "roof" "paused")).answer =
      .ok (.notFound (.mission "roof")) := by
    decide +kernel
  have answer :
      ∃ transition, once.answer = .ok (.applied transition) ∧ transition.recoveryTriggered = true ∧
      transition.missionRunId = "run" := by
    rw [← first]
    exact ⟨_, rfl, by decide +kernel, by decide +kernel⟩
  obtain ⟨transition, recovered, triggered, run⟩ := answer
  refine ⟨once, twice, first, second, ⟨transition, recovered, triggered⟩, ?_, tracker, ?_, ?_⟩
  · rw [(applied transition recovered).1, run]
  · exact (unknown fun transition applied => by cases missing.symm.trans applied).trans missing
  · rw [events, deliveries]

end Tracker
end MissionTracking
