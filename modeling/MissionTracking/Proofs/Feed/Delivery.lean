import MissionTracking.Feed

/-!
What a subscriber is handed. A feed keeps no more than was sent and no more than its capacity. A
subscriber that has been handed everything is handed, after a publication, either the published
notifications in order, or first the number of those that it missed.
-/
namespace MissionTracking

def Delivery.isNotification : Delivery → Bool
  | .lagged _ => false
  | .notification _ => true

namespace Feed

inductive Reachable : Feed → Prop where
  | ofCapacity (requested : Nat) : Reachable (.ofCapacity requested)
  | publish {f : Feed} (ns : List Notification) (reachable : Reachable f) : Reachable (f.publish ns)
  | subscribe {f : Feed} (name : String) (reachable : Reachable f) : Reachable (f.subscribe name)
  | unsubscribe {f : Feed} (name : String)
      (reachable : Reachable f) : Reachable (f.unsubscribe name)
  | drain {f next : Feed} {name : String} {deliveries : List Delivery} (reachable : Reachable f)
      (drained : f.drain name = some (next, deliveries)) : Reachable next

structure Sound (f : Feed) : Prop where
  kept_le_sent : f.kept.length ≤ f.sent
  kept_le_capacity : f.kept.length ≤ f.capacity

/-- The subscriber has been handed everything that was sent. -/
def CaughtUp (f : Feed) (name : String) : Prop :=
  f.subscribers.find? (·.name == name) = some ⟨name, f.sent⟩

variable {f next : Feed} {name : String} {deliveries : List Delivery}

theorem Sound.publish (sound : f.Sound) (ns : List Notification) : (f.publish ns).Sound where
  kept_le_sent := by
    have := sound.kept_le_sent
    simp only [Feed.publish, List.length_drop, List.length_append]
    omega
  kept_le_capacity := by
    simp only [Feed.publish, List.length_drop, List.length_append]
    omega

theorem drain_some (drained : f.drain name = some (next, deliveries)) :
    ∃ s, f.subscribers.find? (·.name == name) = some s ∧ deliveries = f.pending s ∧
      next = { f with
        subscribers :=
          f.subscribers.map fun t => if t.name = name then { t with next := f.sent } else t } := by
  obtain ⟨s, found, pair⟩ := Option.map_eq_some_iff.mp drained
  cases pair
  exact ⟨s, found, rfl, rfl⟩

theorem Sound.drain (sound : f.Sound) (drained : f.drain name = some (next, deliveries)) :
    next.Sound := by
  obtain ⟨_, _, _, rfl⟩ := drain_some drained
  exact ⟨sound.kept_le_sent, sound.kept_le_capacity⟩

theorem Reachable.sound (reachable : f.Reachable) : f.Sound := by
  induction reachable with
  | ofCapacity requested => exact ⟨Nat.zero_le _, Nat.zero_le _⟩
  | publish ns _ ih => exact ih.publish ns
  | subscribe name _ ih => exact ⟨ih.kept_le_sent, ih.kept_le_capacity⟩
  | unsubscribe name _ ih => exact ⟨ih.kept_le_sent, ih.kept_le_capacity⟩
  | drain _ drained ih => exact ih.drain drained

theorem publish_nil (sound : f.Sound) : f.publish [] = f := by
  have all : f.kept.length - f.capacity = 0 := Nat.sub_eq_zero_of_le sound.kept_le_capacity
  simp [publish, all]

theorem publish_publish (f : Feed) (ns ms : List Notification) :
    (f.publish ns).publish ms = f.publish (ns ++ ms) := by
  have kept : (f.kept ++ ns).drop ((f.kept ++ ns).length - f.capacity) ++ ms =
      (f.kept ++ (ns ++ ms)).drop ((f.kept ++ ns).length - f.capacity) := by
    rw [← List.append_assoc, List.drop_append_of_le_length (Nat.sub_le _ _)]
  simp only [publish, kept, List.drop_drop]
  simp only [List.length_drop, List.length_append, Feed.mk.injEq, true_and, and_true]
  constructor
  · congr 1
    omega
  · omega

theorem caughtUp_subscribe (f : Feed) (name : String) : (f.subscribe name).CaughtUp name := by
  have gone : (f.unsubscribe name).subscribers.find? (·.name == name) = none := by
    simp [unsubscribe]
  simp only [CaughtUp, subscribe, List.find?_append, gone]
  simp

theorem caughtUp_drain (drained : f.drain name = some (next, deliveries)) : next.CaughtUp name := by
  obtain ⟨s, found, _, rfl⟩ := drain_some drained
  have called : s.name = name := by simpa using List.find?_some found
  have places : ((fun t : Subscriber => t.name == name) ∘
      fun t => if t.name = name then { t with next := f.sent } else t) =
      fun t => t.name == name := by
    funext t
    simp only [Function.comp_apply]
    split <;> rfl
  simp only [CaughtUp, List.find?_map, places, found, Option.map_some, called, if_true]

/-- A subscriber that was caught up misses something of a publication exactly when more is published
than the feed keeps. -/
theorem drain_publish (sound : f.Sound) (caught : f.CaughtUp name) (ns : List Notification) :
    ∃ next deliveries, (f.publish ns).drain name = some (next, deliveries) ∧
      (ns.length ≤ f.capacity → deliveries = ns.map .notification) ∧
      ((∀ d ∈ deliveries, d.isNotification = true) → ns.length ≤ f.capacity) := by
  have found : (f.publish ns).subscribers.find? (·.name == name) = some ⟨name, f.sent⟩ := caught
  have before := sound.kept_le_sent
  have late : f.sent < (f.publish ns).oldest ↔ f.capacity < ns.length := by
    simp only [oldest, publish, List.length_drop, List.length_append]
    omega
  refine ⟨_, _, by rw [drain, found, Option.map_some], ?_, ?_⟩
  · intro fits
    have inTime : ¬ f.sent < (f.publish ns).oldest := fun lags => Nat.not_lt.mpr fits (late.mp lags)
    have skipped : (f.publish ns).kept.drop (f.sent - (f.publish ns).oldest) = ns := by
      simp only [oldest, publish, List.length_drop, List.length_append] at inTime ⊢
      rw [List.drop_drop]
      exact List.drop_left' (by omega)
    rw [pending, if_neg inTime, skipped, List.nil_append]
  · intro kept
    rw [← Nat.not_lt, ← late]
    intro lags
    have first := kept (.lagged ((f.publish ns).oldest - f.sent)) (by simp [pending, lags])
    cases first

def receive (f : Feed) (name : String) : Feed × List Delivery := (f.drain name).getD (f, [])

/-- Sends notifications to a subscriber that receives in between: after as many sends as the first
number says, then after as many as the second says, and so on, and in any case after the last. -/
def relay (f : Feed) (name : String) : List Nat → List Notification → Feed × List Delivery
  | [], ns => (f.publish ns).receive name
  | k :: pauses, ns =>
    let first := (f.publish (ns.take k)).receive name
    let rest := first.1.relay name pauses (ns.drop k)
    (rest.1, first.2 ++ rest.2)

def withSubscribers (f : Feed) (subscribers : List Subscriber) : Feed := { f with subscribers }

/-- The feed has got the notifications, and the subscriber has received as much as it will. -/
structure Relayed (f : Feed) (name : String) (ns : List Notification)
    (result : Feed × List Delivery) : Prop where
  sound : result.1.Sound
  caughtUp : result.1.CaughtUp name
  published : result.1.withSubscribers f.subscribers = f.publish ns
  inTime : (∀ d ∈ result.2, d.isNotification = true) → result.2 = ns.map .notification

theorem receive_publish (sound : f.Sound) (caught : f.CaughtUp name) (ns : List Notification) :
    Relayed f name ns ((f.publish ns).receive name) ∧
      (ns.length ≤ f.capacity → ((f.publish ns).receive name).2 = ns.map .notification) := by
  obtain ⟨next, deliveries, drained, fits, kept⟩ := drain_publish sound caught ns
  rw [receive, drained, Option.getD_some]
  refine ⟨⟨(sound.publish ns).drain drained, caughtUp_drain drained, ?_,
    fun all => fits (kept all)⟩, fits⟩
  obtain ⟨_, _, _, rfl⟩ := drain_some drained
  rfl

theorem Relayed.capacity {ns : List Notification} {result : Feed × List Delivery}
    (relayed : Relayed f name ns result) : result.1.capacity = f.capacity := by
  have whole := congrArg Feed.capacity relayed.published
  exact whole

theorem Relayed.append {ns ms : List Notification} {first rest : Feed × List Delivery}
    (begun : Relayed f name ns first) (ended : Relayed first.1 name ms rest) :
    Relayed f name (ns ++ ms) (rest.1, first.2 ++ rest.2) where
  sound := ended.sound
  caughtUp := ended.caughtUp
  published := by
    have last := congrArg (·.withSubscribers f.subscribers) ended.published
    rw [← publish_publish, ← begun.published]
    exact last
  inTime all := by
    obtain ⟨early, late⟩ := List.forall_mem_append.mp all
    rw [begun.inTime early, ended.inTime late, List.map_append]

theorem relay_relayed (sound : f.Sound) (caught : f.CaughtUp name) (pauses : List Nat)
    (ns : List Notification) : Relayed f name ns (f.relay name pauses ns) := by
  induction pauses generalizing f ns with
  | nil => exact (receive_publish sound caught ns).1
  | cons k pauses ih =>
    have first := (receive_publish sound caught (ns.take k)).1
    have whole := first.append (ih first.sound first.caughtUp (ns.drop k))
    rwa [List.take_append_drop] at whole

/-- A subscriber that never lets more than the capacity be sent before it receives misses
nothing. -/
theorem relay_deliveries (sound : f.Sound) (caught : f.CaughtUp name) {pauses : List Nat}
    {ns : List Notification} (often : ∀ k ∈ pauses, k ≤ f.capacity)
    (enough : ns.length ≤ pauses.foldr (· + ·) f.capacity) :
    (f.relay name pauses ns).2 = ns.map .notification := by
  induction pauses generalizing f ns with
  | nil => exact (receive_publish sound caught ns).2 enough
  | cons k pauses ih =>
    obtain ⟨early, later⟩ := List.forall_mem_cons.mp often
    obtain ⟨first, handed⟩ := receive_publish sound caught (ns.take k)
    rw [← first.capacity] at later
    have fewer : (ns.drop k).length ≤
        pauses.foldr (· + ·) ((f.publish (ns.take k)).receive name).1.capacity := by
      rw [List.foldr_cons] at enough
      rw [first.capacity, List.length_drop]
      omega
    have rest := ih first.sound first.caughtUp later fewer
    simp only [relay]
    rw [handed (Nat.le_trans (List.length_take_le k ns) early), rest, ← List.map_append,
      List.take_append_drop]

/-- A subscriber that receives after every notification misses none, whatever the capacity. -/
theorem relay_each (sound : f.Sound) (caught : f.CaughtUp name) (room : 1 ≤ f.capacity)
    (ns : List Notification) :
    (f.relay name (List.replicate ns.length 1) ns).2 = ns.map .notification := by
  have enough (n : Nat) : n ≤ (List.replicate n 1).foldr (· + ·) f.capacity := by
    induction n with
    | zero => exact Nat.zero_le _
    | succ n ih =>
      rw [List.replicate_succ, List.foldr_cons]
      omega
  apply relay_deliveries sound caught _ (enough ns.length)
  intro k member
  rwa [List.eq_of_mem_replicate member]

theorem Reachable.one_le_capacity (reachable : f.Reachable) : 1 ≤ f.capacity := by
  induction reachable with
  | ofCapacity requested =>
    exact Nat.pos_of_isPowerOfTwo (Nat.isPowerOfTwo_nextPowerOfTwo _)
  | publish ns _ ih => exact ih
  | subscribe name _ ih => exact ih
  | unsubscribe name _ ih => exact ih
  | drain _ drained ih =>
    obtain ⟨_, _, _, rfl⟩ := drain_some drained
    exact ih

end Feed
end MissionTracking
