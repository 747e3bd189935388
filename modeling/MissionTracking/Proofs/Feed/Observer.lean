import MissionTracking.Proofs.Feed.Announcement
import MissionTracking.Proofs.Feed.Delivery
import MissionTracking.Proofs.Ingestion.Missions
import MissionTracking.Proofs.Tracker.Resolution

/-!
A subscriber that copies the stored statuses and afterwards sees the feed only. It drains the feed
after each event and writes what it is handed into its copy. As long as it misses nothing, its copy
is what the store holds.
-/
namespace MissionTracking
open Tracker

structure Observer where
  tracker : Tracker
  copy : Replica

def Replica.hear (copy : Replica) : Delivery → Replica
  | .lagged _ => copy
  | .notification n => copy.overwrite n

theorem Replica.foldl_hear (copy : Replica) (ns : List Notification) :
    (ns.map Delivery.notification).foldl Replica.hear copy = ns.foldl Replica.overwrite copy := by
  rw [List.foldl_map]
  rfl

namespace Tracker

/-- A way to handle events puts the notifications of each into the feed, and nothing else. -/
structure Publishes
    (serve : Tracker → StatusEvent → Reply (Except TrackingError Outcome)) : Prop where
  feed : ∀ t e, t.publishes = true → t.feed.Sound →
    (serve t e).tracker.feed = t.feed.publish (e.announced (serve t e).answer)
  publishes : ∀ t e, (serve t e).tracker.publishes = t.publishes

theorem handle_publishes : Publishes handle where
  feed t e on sound := by
    unfold handle
    cases StatusReport.ofEvent e with
    | error error => exact (Feed.publish_nil sound).symm
    | ok report =>
      simp only [apply, publish, on, if_true]
      rfl
  publishes t e := by
    unfold handle
    cases StatusReport.ofEvent e with
    | error error => rfl
    | ok report =>
      simp only [apply, publish]
      split <;> rfl

theorem dispatch_publishes : Publishes dispatch where
  feed t e := handle_publishes.feed (t.enter e.externalMissionId) e
  publishes t e := handle_publishes.publishes (t.enter e.externalMissionId) e

end Tracker

namespace Observer

variable {serve : Tracker → StatusEvent → Reply (Except TrackingError Outcome)} {name : String}
  {o : Observer}

def start (t : Tracker) (name : String) : Observer :=
  ⟨{ t with feed := t.feed.subscribe name }, t.store.shown⟩

/-- One event. Its notifications are sent one after the other, with pauses in which the subscriber
receives. The answer to the event comes with the deliveries. -/
def observe (serve : Tracker → StatusEvent → Reply (Except TrackingError Outcome)) (name : String)
    (o : Observer) (input : StatusEvent × List Nat) :
    Observer × Except TrackingError Outcome × List Delivery :=
  let reply := serve o.tracker input.1
  let handed := o.tracker.feed.relay name input.2 (input.1.announced reply.answer)
  (⟨{ reply.tracker with feed := handed.1 }, handed.2.foldl Replica.hear o.copy⟩, reply.answer,
    handed.2)

/-- Nothing is left to be delivered, and the copy is what the store holds. -/
structure InStep (o : Observer) (name : String) : Prop where
  coherent : o.tracker.store.Coherent
  distinct : o.tracker.store.HasDistinctIds
  publishes : o.tracker.publishes = true
  sound : o.tracker.feed.Sound
  caughtUp : o.tracker.feed.CaughtUp name
  copy : o.copy = o.tracker.store.shown

theorem inStep_start {t : Tracker} (coherent : t.store.Coherent) (distinct : t.store.HasDistinctIds)
    (publishes : t.publishes = true) (sound : t.feed.Sound) (name : String) :
    (start t name).InStep name where
  coherent := coherent
  distinct := distinct
  publishes := publishes
  sound := ⟨sound.kept_le_sent, sound.kept_le_capacity⟩
  caughtUp := t.feed.caughtUp_subscribe name
  copy := rfl

/-- One event keeps an observer in step when it is not told that it missed something. The tracker is
the one that the event leaves, but for what the subscriber has received. -/
theorem InStep.observe (h : o.InStep name) (served : Serves serve) (published : Publishes serve)
    (e : StatusEvent) (pauses : List Nat)
    (keepsUp : ∀ d ∈ (observe serve name o (e, pauses)).2.2, d.isNotification = true) :
    ∃ next copy, Observer.observe serve name o (e, pauses) = (⟨next, copy⟩,
        (o.tracker.store.receive e).2,
        (e.announced (o.tracker.store.receive e).2).map .notification) ∧
      InStep ⟨next, copy⟩ name ∧ next.store = (o.tracker.store.receive e).1 ∧
      copy = (e.announced (o.tracker.store.receive e).2).foldl Replica.overwrite o.copy ∧
      (serve o.tracker e).tracker =
        { next with feed := next.feed.withSubscribers o.tracker.feed.subscribers } := by
  have answer := served.answer o.tracker e
  have store := served.store o.tracker e
  have feed := published.feed o.tracker e h.publishes h.sound
  have relayed := Feed.relay_relayed h.sound h.caughtUp pauses
    (e.announced (serve o.tracker e).answer)
  have handed := relayed.inTime keepsUp
  rw [← relayed.published] at feed
  simp only [Observer.observe]
  rw [handed, Replica.foldl_hear, answer]
  rw [answer] at relayed feed
  refine ⟨_, _, rfl, ?_, store, rfl, ?_⟩
  · constructor
    · rw [store]
      exact h.coherent.receive e
    · rw [store]
      exact h.coherent.hasDistinctIds_receive h.distinct e
    · exact (published.publishes o.tracker e).trans h.publishes
    · exact relayed.sound
    · exact relayed.caughtUp
    · rw [store, h.copy]
      exact (h.coherent.announced_follows h.distinct e).2
  · exact congrArg (fun feed => { (serve o.tracker e).tracker with feed }) feed

theorem InStep.steps (h : o.InStep name) (served : Serves serve) (published : Publishes serve)
    {inputs : List (StatusEvent × List Nat)}
    (keepsUp : ∀ taken ∈ (steps (Observer.observe serve name) o inputs).2,
      ∀ d ∈ taken.2, d.isNotification = true) :
    (MissionTracking.steps (Observer.observe serve name) o inputs).1.InStep name := by
  induction inputs generalizing o with
  | nil => exact h
  | cons input inputs ih =>
    obtain ⟨first, rest⟩ := List.forall_mem_cons.mp keepsUp
    obtain ⟨next, copy, made, inStep, _⟩ := h.observe served published input.1 input.2 first
    rw [MissionTracking.steps, made]
    rw [made] at rest
    exact ih inStep rest

theorem InStep.exists_pauses (h : o.InStep name) (room : 1 ≤ o.tracker.feed.capacity)
    (served : Serves serve) (published : Publishes serve) (events : List StatusEvent) :
    ∃ inputs : List (StatusEvent × List Nat), inputs.map Prod.fst = events ∧
      ∀ taken ∈ (MissionTracking.steps (Observer.observe serve name) o inputs).2,
        ∀ d ∈ taken.2, d.isNotification = true := by
  -- The subscriber receives after every notification, which no capacity is too small for.
  induction events generalizing o with
  | nil => exact ⟨[], rfl, fun _ none => absurd none List.not_mem_nil⟩
  | cons e events ih =>
    obtain ⟨ns, brings⟩ : ∃ ns, e.announced (serve o.tracker e).answer = ns := ⟨_, rfl⟩
    have handed : (Observer.observe serve name o (e, List.replicate ns.length 1)).2.2 =
        ns.map .notification := by
      simp only [Observer.observe, brings]
      exact Feed.relay_each h.sound h.caughtUp room ns
    have first : ∀ d ∈ (Observer.observe serve name o (e, List.replicate ns.length 1)).2.2,
        d.isNotification = true := by
      rw [handed]
      exact List.forall_mem_map.mpr fun _ _ => rfl
    obtain ⟨next, copy, made, inStep, _, _, tracker⟩ := h.observe served published e _ first
    have capacity : next.feed.capacity = o.tracker.feed.capacity := by
      have sent := congrArg Feed.capacity (published.feed o.tracker e h.publishes h.sound)
      rw [tracker] at sent
      exact sent
    obtain ⟨inputs, same, rest⟩ := ih inStep (capacity ▸ room)
    refine ⟨(e, List.replicate ns.length 1) :: inputs, by rw [List.map_cons, same], ?_⟩
    rw [MissionTracking.steps]
    refine List.forall_mem_cons.mpr ⟨first, ?_⟩
    rw [made]
    exact rest

/-- A subscriber that receives often enough misses nothing, whatever the capacity of the feed. -/
theorem exists_inputs_inTime {t : Tracker} (reachable : t.store.Reachable)
    (distinct : t.store.HasDistinctIds) (feed : t.feed.Reachable) (publishes : t.publishes = true)
    (way : serve = handle ∨ serve = dispatch) (events : List StatusEvent) :
    ∃ inputs : List (StatusEvent × List Nat), inputs.map Prod.fst = events ∧
      ∀ taken ∈ (steps (observe serve name) (start t name) inputs).2,
        ∀ d ∈ taken.2, d.isNotification = true :=
  (inStep_start reachable.coherent distinct publishes feed.sound name).exists_pauses
    feed.one_le_capacity (holds_of_way way handle_serves dispatch_serves)
    (holds_of_way way handle_publishes dispatch_publishes) events

/-- However the events before it went, the notifications of an event start from what the copy holds
at that moment and bring something else, and with them the copy is what the store holds. An event
that fails or that does not resolve brings none. One that repeats what is stored brings none either,
unless it is a task in progress whose mission is not ongoing and recovers by it. -/
theorem copy_follows_store {t : Tracker} (reachable : t.store.Reachable)
    (distinct : t.store.HasDistinctIds) (feed : t.feed.Reachable) (publishes : t.publishes = true)
    (way : serve = handle ∨ serve = dispatch) {inputs : List (StatusEvent × List Nat)}
    (keepsUp : ∀ taken ∈ (steps (observe serve name) (start t name) inputs).2,
      ∀ d ∈ taken.2, d.isNotification = true) :
    ∀ before e pauses later, inputs = before ++ (e, pauses) :: later →
      ∃ o reply next copy ns,
        (steps (observe serve name) (start t name) before).1 = o ∧
        serve o.tracker e = reply ∧
        observe serve name o (e, pauses) = (⟨next, copy⟩, reply.answer, ns.map .notification) ∧
        reply.tracker = { next with feed := next.feed.withSubscribers o.tracker.feed.subscribers } ∧
        o.copy = o.tracker.store.shown ∧ o.copy.Follows ns ∧
        copy = ns.foldl Replica.overwrite o.copy ∧ copy = next.store.shown ∧
        (∀ error, reply.answer = .error error → ns = []) ∧
        (∀ reference, reply.answer = .ok (.notFound reference) → ns = []) ∧
        (∀ id r report, o.tracker.store.resolve? e.externalMissionId = some (id, r) →
          StatusReport.ofEvent e = .ok report → report.Repeats r →
          (ns = [] ↔ ¬ report.Recovers r)) ∧
        (ns = [] ↔ next.store = o.tracker.store) := by
  rintro before e pauses later rfl
  have served : Serves serve := holds_of_way way handle_serves dispatch_serves
  have published : Publishes serve := holds_of_way way handle_publishes dispatch_publishes
  simp only [steps_append, steps, List.forall_mem_append, List.forall_mem_cons] at keepsUp
  obtain ⟨earlier, now, _⟩ := keepsUp
  have h := (inStep_start reachable.coherent distinct publishes feed.sound name).steps served
    published earlier
  generalize (steps (observe serve name) (start t name) before).1 = o at h now ⊢
  obtain ⟨next, copy, made, inStep, store, overwritten, tracker⟩ :=
    h.observe served published e pauses now
  have answer := served.answer o.tracker e
  have follows := (h.coherent.announced_follows h.distinct e).1
  rw [← h.copy] at follows
  rw [← answer] at made
  refine ⟨o, _, next, copy, _, rfl, rfl, made, tracker, h.copy, ?_, ?_, inStep.copy, ?_, ?_, ?_, ?_⟩
  · rwa [answer]
  · rwa [answer]
  · intro error failed
    rw [failed]
    rfl
  · intro reference missed
    rw [missed]
    rfl
  · intro id r report resolved read repeats
    rw [answer]
    exact Store.announced_eq_nil_iff_of_repeats resolved read repeats
  · rw [answer, store]
    exact h.coherent.announced_eq_nil_iff e

def watched : Tracker :=
  { fresh .standard 4 true with
    store := (Store.empty.perform (.create valveCheck : StoreCall Unit)).1 }

theorem watched_distinct : watched.store.HasDistinctIds := by
  intro id r found
  have only : watched.store.toList = [valveCheck] := by decide +kernel
  have member := (watched.store.mem_toList r).mpr ⟨id, found⟩
  rw [only, List.mem_singleton] at member
  rw [member]
  exact ⟨by decide, by decide⟩

def narrow : Tracker := { watched with feed := .ofCapacity 1 }

/-- A task in progress brings two notifications, and the subscriber receives between them. Then the
mission is paused, and a mission and a status that are not known change nothing. When the task comes
again the mission recovers, and when it comes once more nothing is left to be told. -/
theorem copy_follows_store_reconnected :
    ∃ o next copy ns,
      (steps (observe dispatch "panel") (start narrow "panel")
        [(.task "deck" "valves" "in_progress", [1]), (.mission "deck" "paused", []),
          (.mission "roof" "paused", []), (.mission "deck" "lost", [])]).1 = o ∧
      (observe dispatch "panel" o (.task "deck" "valves" "in_progress", [])).1 = ⟨next, copy⟩ ∧
      (observe dispatch "panel" o (.task "deck" "valves" "in_progress", [])).2.2 =
        ns.map .notification ∧
      o.copy "run" .mission = some "paused" ∧ o.copy.Follows ns ∧
      copy = next.store.shown ∧ copy "run" .mission = some "ongoing" ∧
      (observe dispatch "panel" ⟨next, copy⟩
        (.task "deck" "valves" "in_progress", [])).2.2 = [] := by
  have reachable : narrow.store.Reachable := .call (.create valveCheck : StoreCall Unit) .empty
  have keepsUp : ∀ taken ∈ (steps (observe dispatch "panel") (start narrow "panel")
      [(.task "deck" "valves" "in_progress", [1]), (.mission "deck" "paused", []),
        (.mission "roof" "paused", []), (.mission "deck" "lost", []),
        (.task "deck" "valves" "in_progress", []), (.task "deck" "valves" "in_progress", [])]).2,
      ∀ d ∈ taken.2, d.isNotification = true := by decide +kernel
  have each := copy_follows_store reachable watched_distinct (.ofCapacity 1) rfl (.inr rfl) keepsUp
  obtain ⟨o, _, next, copy, ns, reached, _, made, _, _, follows, _, shown, _⟩ :=
    each [(.task "deck" "valves" "in_progress", [1]), (.mission "deck" "paused", []),
      (.mission "roof" "paused", []), (.mission "deck" "lost", [])] _ _ _ rfl
  obtain ⟨o', _, _, _, again, reached', _, made', _, _, _, _, _, _, _, repeats, _⟩ :=
    each [(.task "deck" "valves" "in_progress", [1]), (.mission "deck" "paused", []),
      (.mission "roof" "paused", []), (.mission "deck" "lost", []),
      (.task "deck" "valves" "in_progress", [])] _ _ _ rfl
  have once : (observe dispatch "panel" o (.task "deck" "valves" "in_progress", [])).1 =
      ⟨next, copy⟩ := congrArg Prod.fst made
  have after : o' = ⟨next, copy⟩ := by
    rw [← reached', ← once, ← reached]
    rfl
  have stored : o'.tracker.store.resolve? "deck" =
      some ("run", valveCheck.after (.task "valves" .inProgress)) := by
    rw [← reached']
    decide +kernel
  have silent : again = [] :=
    (repeats _ _ _ stored rfl ⟨0, by decide +kernel, by decide +kernel⟩).mpr
    fun recovers => absurd recovers.2 (by decide +kernel)
  refine ⟨o, next, copy, ns, reached, once, congrArg (·.2.2) made, ?_, follows, shown, ?_, ?_⟩
  · rw [← reached]
    decide +kernel
  · have last : _ = copy := congrArg Observer.copy once
    rw [← reached] at last
    rw [← last]
    decide +kernel
  · rw [← after, made', silent]
    rfl

/-- The claim that a repeated report brings nothing fails when the mission was paused meanwhile. -/
theorem repeated_not_silent : ¬ ∀ (t : Tracker) (name : String), t.store.Reachable →
    t.store.HasDistinctIds → t.feed.Reachable → t.publishes = true →
    ∀ before e o id r report, (steps (observe dispatch name) (start t name) before).1 = o →
      o.tracker.store.resolve? e.externalMissionId = some (id, r) →
      StatusReport.ofEvent e = .ok report → report.Repeats r →
      e.announced (dispatch o.tracker e).answer = [] := by
  intro always
  have reachable : narrow.store.Reachable := .call (.create valveCheck : StoreCall Unit) .empty
  have silent := always narrow "panel" reachable watched_distinct (.ofCapacity 1) rfl
    [(.task "deck" "valves" "in_progress", []), (.mission "deck" "paused", [])]
    (.task "deck" "valves" "in_progress") _ "run"
    { valveCheck.after (.task "valves" .inProgress) with status := .paused }
    (.task "valves" .inProgress) rfl (by decide +kernel) rfl
    ⟨0, by decide +kernel, by decide +kernel⟩
  exact absurd silent (by decide +kernel)

end Observer
end MissionTracking
