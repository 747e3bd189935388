import MissionTracking.Proofs.Ingestion.Direct

/-!
Events of different missions do not meet. Each mission is a lane of its own: the run that carries it
ends as if it had been given the events of the mission directly and nothing else had happened, and
each event is answered as there. How the lanes are interleaved is therefore not seen, neither in the
store nor in the answers.
-/
namespace MissionTracking

abbrev missionEvents (m : String) (es : List StatusEvent) : List StatusEvent :=
  inLane StatusEvent.externalMissionId m es

abbrev missionAnswers (m : String) (es : List StatusEvent)
    (answers : List (Except TrackingError Outcome)) :
    List (StatusEvent × Except TrackingError Outcome) :=
  inLane (fun answered => answered.1.externalMissionId) m (es.zip answers)

def missionStep : Option MissionRun → StatusEvent → Option MissionRun × Except TrackingError Outcome
  | some r, e => (some (r.handle e).1, (r.handle e).2)
  | none, e => (none, e.unclaimed)

theorem steps_missionStep_some (r : MissionRun) (es : List StatusEvent) :
    steps missionStep (some r) es =
      (some (steps MissionRun.handle r es).1, (steps MissionRun.handle r es).2) := by
  induction es generalizing r with
  | nil => rfl
  | cons e es ih => simp only [steps, missionStep, ih]

theorem steps_missionStep_none (es : List StatusEvent) :
    steps missionStep none es = (none, es.map StatusEvent.unclaimed) := by
  induction es with
  | nil => rfl
  | cons e es ih => simp only [steps, missionStep, ih, List.map_cons]

/-- A stored run after events of all missions: it sees those of its own. -/
def MissionRun.hear (r : MissionRun) (es : List StatusEvent) : MissionRun :=
  match r.externalMissionId with
  | some m => (steps handle r (missionEvents m es)).1
  | none => r

theorem MissionRun.hear_cons (r : MissionRun) (e : StatusEvent) (es : List StatusEvent) :
    r.hear (e :: es) =
    (if r.externalMissionId = some e.externalMissionId then (r.handle e).1 else r).hear es := by
  cases held : r.externalMissionId with
  | none => simp only [hear, held, reduceCtorEq, if_false]
  | some m =>
    by_cases here : e.externalMissionId = m
    · subst here
      simp only [hear, held, if_true, handle_externalMissionId, missionEvents, inLane,
        List.filter_cons, decide_true, steps]
    · have other : ¬ some m = some e.externalMissionId :=
        fun same => here (Option.some.inj same).symm
      simp only [hear, held, if_neg other, missionEvents, inLane, List.filter_cons, here,
        decide_false, Bool.false_eq_true, if_false]

namespace Store
variable {s : Store}

theorem receive_answer_eq (s : Store) (e : StatusEvent) :
    (s.receive e).2 = (missionStep (s.carrier? e.externalMissionId) e).2 := by
  unfold carrier?
  cases resolved : s.resolve? e.externalMissionId with
  | none => rw [receive_of_unresolved resolved, Option.map_none, missionStep]
  | some pair => rw [receive_answer resolved, Option.map_some, missionStep]

namespace Coherent

theorem carrier?_receive_eq (h : s.Coherent) (e : StatusEvent) (m : String) :
    (s.receive e).1.carrier? m =
      if e.externalMissionId = m then (missionStep (s.carrier? m) e).1 else s.carrier? m := by
  rw [h.carrier?_receive]
  cases carried : s.carrier? m with
  | none => simp only [Option.map_none, missionStep, ite_self]
  | some r =>
    have held := (h.carrier?_eq_some_iff.mp carried).2
    simp only [Option.map_some, missionStep, held, Option.some.injEq, eq_comm (a := m)]
    split <;> rfl

theorem missionAnswers_receive (h : s.Coherent) (es : List StatusEvent) (m : String) :
    missionAnswers m es (steps Store.receive s es).2 =
      (missionEvents m es).zip (steps missionStep (s.carrier? m) (missionEvents m es)).2 := by
  have each : ∀ (s : Store) (e : StatusEvent), s.Coherent → (s.receive e).1.Coherent ∧
      (s.receive e).2 = (missionStep (s.carrier? e.externalMissionId) e).2 ∧
      ∀ m, (s.receive e).1.carrier? m =
        if e.externalMissionId = m then (missionStep (s.carrier? m) e).1 else s.carrier? m :=
    fun s e h => ⟨h.receive e, receive_answer_eq s e, h.carrier?_receive_eq e⟩
  exact (steps_lanes each h es m).2

/-- Each stored run has heard the events of its mission, and there are no other runs. -/
theorem find?_steps_receive (h : s.Coherent) (es : List StatusEvent) (id : String) :
    (steps Store.receive s es).1.find? id = (s.find? id).map (·.hear es) := by
  induction es generalizing s with
  | nil =>
    have unheard (r : MissionRun) : r.hear [] = r := by
      unfold MissionRun.hear
      cases r.externalMissionId <;> rfl
    simp only [steps, unheard, Option.map_id']
  | cons e es ih =>
    simp only [steps, ih (h.receive e), h.find?_receive, Option.map_map, MissionRun.hear_cons,
      Function.comp_def]

theorem index_steps_receive (h : s.Coherent) (es : List StatusEvent) :
    (steps Store.receive s es).1.index = s.index := by
  have each : ∀ t : Store, ∀ e ∈ es, t.Coherent ∧ t.index = s.index →
      (t.receive e).1.Coherent ∧ (t.receive e).1.index = s.index :=
    fun t e _ kept => ⟨kept.1.receive e, (kept.1.index_receive e).trans kept.2⟩
  exact (steps_keep each ⟨h, rfl⟩).2

theorem steps_receive_eq (h : s.Coherent) {es others : List StatusEvent}
    (same : ∀ m, missionEvents m others = missionEvents m es) :
    (steps Store.receive s others).1 = (steps Store.receive s es).1 := by
  apply eq_of_lookups
  · intro id
    simp only [h.find?_steps_receive, MissionRun.hear, same]
  · intro e
    rw [h.index_steps_receive, h.index_steps_receive]

end Coherent
end Store

namespace Tracker

def serving (serve : Tracker → StatusEvent → Reply α) (t : Tracker) (e : StatusEvent) :
    Tracker × α :=
  ((serve t e).tracker, (serve t e).answer)

theorem publish_store (t : Tracker) (ns : List Notification) : (t.publish ns).store = t.store := by
  unfold publish
  split <;> rfl

theorem publish_inFlight (t : Tracker) (ns : List Notification) :
    (t.publish ns).inFlight = t.inFlight := by
  unfold publish
  split <;> rfl

/-- What a way to handle events does to the store, and that it leaves no mission in flight. -/
structure Serves (serve : Tracker → StatusEvent → Reply (Except TrackingError Outcome)) : Prop where
  store : ∀ t e, (serve t e).tracker.store = (t.store.receive e).1
  answer : ∀ t e, (serve t e).answer = (t.store.receive e).2
  inFlight : ∀ t e, (serve t e).tracker.inFlight = t.inFlight

theorem handle_serves : Serves handle where
  store t e := by
    unfold handle Store.receive Store.handle
    cases StatusReport.ofEvent e with
    | error error => rfl
    | ok report => exact publish_store _ _
  answer t e := by
    unfold handle Store.receive Store.handle
    cases StatusReport.ofEvent e <;> rfl
  inFlight t e := by
    unfold handle
    cases StatusReport.ofEvent e with
    | error error => rfl
    | ok report => exact publish_inFlight _ _

theorem dispatch_serves : Serves dispatch where
  store t e := handle_serves.store (t.enter e.externalMissionId) e
  answer t e := handle_serves.answer (t.enter e.externalMissionId) e
  inFlight t e := by
    have entered := handle_serves.inFlight (t.enter e.externalMissionId) e
    unfold dispatch leave
    dsimp only
    rw [entered]
    unfold enter
    rw [List.erase_cons_head]

variable {serve : Tracker → StatusEvent → Reply (Except TrackingError Outcome)}

theorem holds_of_way {holds : (Tracker → StatusEvent → Reply (Except TrackingError Outcome)) → Prop}
    (way : serve = handle ∨ serve = dispatch) (handled : holds handle)
    (dispatched : holds dispatch) : holds serve := by
  rcases way with rfl | rfl
  · exact handled
  · exact dispatched

theorem Serves.agree (served : Serves serve) (t : Tracker) (es : List StatusEvent) :
    (steps (serving serve) t es).2 = (steps Store.receive t.store es).2 ∧
      (steps (serving serve) t es).1.store = (steps Store.receive t.store es).1 := by
  have alike : ∀ (t : Tracker) (s : Store) (e : StatusEvent), t.store = s →
      (serving serve t e).2 = (s.receive e).2 ∧ (serving serve t e).1.store = (s.receive e).1 := by
    rintro t s e rfl
    exact ⟨served.answer t e, served.store t e⟩
  exact steps_simulation alike rfl es

theorem Serves.inFlight_after (served : Serves serve) (t : Tracker) (es : List StatusEvent) :
    (steps (serving serve) t es).1.inFlight = t.inFlight := by
  have each : ∀ u : Tracker, ∀ e ∈ es, u.inFlight = t.inFlight →
      (serving serve u e).1.inFlight = t.inFlight :=
    fun u e _ same => (served.inFlight u e).trans same
  exact steps_keep each rfl

/-- Whether events are handled or dispatched, each stored run ends as its own events applied
directly leave it, no other run appears, disappears or changes, and the answers to the events of a
mission are those of the direct application, or say that the mission is unknown. Other orders of the
events that keep the order within each mission lead to the same store and the same answers, and no
mission stays in flight. -/
theorem missions_independent {t : Tracker} (reachable : t.store.Reachable) (idle : t.inFlight = [])
    (way : serve = handle ∨ serve = dispatch) (events : List StatusEvent) :
    ∃ last answers, steps (serving serve) t events = (last, answers) ∧
      last.store.Reachable ∧ answers.length = events.length ∧
      (∀ id r m, t.store.find? id = some r → r.externalMissionId = some m →
        last.store.find? id = some (steps MissionRun.handle r (missionEvents m events)).1 ∧
        missionAnswers m events answers =
          (missionEvents m events).zip (steps MissionRun.handle r (missionEvents m events)).2) ∧
      (∀ id r,
        t.store.find? id = some r → r.externalMissionId = none → last.store.find? id = some r) ∧
      (∀ id, t.store.find? id = none → last.store.find? id = none) ∧
      (∀ m, (∀ id r, t.store.find? id = some r → r.externalMissionId ≠ some m) →
        missionAnswers m events answers =
          (missionEvents m events).zip ((missionEvents m events).map StatusEvent.unclaimed)) ∧
      (∀ others : List StatusEvent, (∀ m, missionEvents m others = missionEvents m events) →
        ∃ last' answers', steps (serving serve) t others = (last', answers') ∧
          last'.store = last.store ∧
          ∀ m, missionAnswers m others answers' = missionAnswers m events answers) ∧
      ∀ k, (steps (serving serve) t (events.take k)).1.inFlight = [] := by
  have coherent := reachable.coherent
  have served : Serves serve := holds_of_way way handle_serves dispatch_serves
  have same (es : List StatusEvent) := served.agree t es
  refine ⟨_, _, rfl, ?_, length_steps t events, ?_, ?_, ?_, ?_, ?_, ?_⟩
  · rw [(same events).2]
    exact steps_keep (fun _ e _ reached => reached.receive e) reachable
  · intro id r m found held
    have carried : t.store.carrier? m = some r :=
      coherent.carrier?_eq_some_iff.mpr ⟨coherent.keyed found ▸ found, held⟩
    constructor
    · rw [(same events).2, coherent.find?_steps_receive, found, Option.map_some,
        MissionRun.hear, held]
    · rw [(same events).1, coherent.missionAnswers_receive, carried, steps_missionStep_some]
  · intro id r found unassigned
    rw [(same events).2, coherent.find?_steps_receive, found, Option.map_some,
      MissionRun.hear, unassigned]
  · intro id absent
    rw [(same events).2, coherent.find?_steps_receive, absent, Option.map_none]
  · intro m unclaimed
    have missing : t.store.carrier? m = none := by
      rw [Store.carrier?, coherent.resolve?_eq_none_iff.mpr unclaimed, Option.map_none]
    rw [(same events).1, coherent.missionAnswers_receive, missing, steps_missionStep_none]
  · intro others order
    refine ⟨_, _, rfl, ?_, ?_⟩
    · rw [(same others).2, (same events).2, coherent.steps_receive_eq order]
    · intro m
      rw [(same others).1, (same events).1, coherent.missionAnswers_receive,
        coherent.missionAnswers_receive, order]
  · intro k
    rw [served.inFlight_after, idle]

def deckScan : MissionRun := (MissionRun.plain "run").withExternalId "deck"

/-- An event of another mission between two of the one stored run. -/
theorem missions_independent_deckScan :
    ∃ last answers,
      steps (serving dispatch)
        { fresh .standard 1 false with
          store := (Store.empty.perform (.create deckScan : StoreCall Unit)).1 }
        [.mission "deck" "Paused", .mission "roof" "failed", .mission "deck" "lost"] =
      (last, answers) ∧
      last.store.find? "run" = some { deckScan with status := .paused } ∧
      (missionAnswers "deck"
        [.mission "deck" "Paused", .mission "roof" "failed", .mission "deck" "lost"]
        answers).getLast? =
      some (.mission "deck" "lost", .error (.unknownStatus .mission "lost")) := by
  obtain ⟨last, answers, done, _, _, runs, _⟩ :=
    missions_independent (.call (.create deckScan : StoreCall Unit) .empty) rfl (.inr rfl)
      [.mission "deck" "Paused", .mission "roof" "failed", .mission "deck" "lost"]
      (t := { fresh .standard 1 false with
              store := (Store.empty.perform (.create deckScan : StoreCall Unit)).1 })
  obtain ⟨run, replies⟩ := runs "run" deckScan "deck" (by decide +kernel) rfl
  refine ⟨last, answers, done, ?_, ?_⟩
  · rw [run]
    rfl
  · rw [replies]
    rfl

end Tracker
end MissionTracking
