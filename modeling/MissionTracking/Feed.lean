import MissionTracking.Transition.Report

/-!
The feed of status changes. It keeps the most recent notifications and counts all that were ever
sent. A subscriber sees what is sent after it subscribed, each notification once and in order; when
more was sent than is kept, it first learns how many it missed and goes on with the oldest that is
kept.
-/
namespace MissionTracking
open Json

structure Notification where
  missionRunId : String
  externalMissionId : String
  change : StatusChange
deriving DecidableEq, Repr

inductive Delivery where
  | lagged (missed : Nat)
  | notification (n : Notification)
deriving DecidableEq, Repr

structure Subscriber where
  name : String
  /-- The number of notifications sent before the next one for this subscriber. -/
  next : Nat
deriving DecidableEq, Repr

structure Feed where
  capacity : Nat
  /-- The most recent notifications, oldest first. -/
  kept : List Notification
  sent : Nat
  subscribers : List Subscriber
deriving DecidableEq, Repr

def TransitionReport.notifications (r : TransitionReport) (externalMissionId : String) :
    List Notification :=
  r.changes.map fun c => ⟨r.missionRunId, externalMissionId, c⟩

namespace Notification

def toJson (n : Notification) : Json :=
  .object [("missionRunId", .string n.missionRunId),
    ("externalMissionId", .string n.externalMissionId), ("target", n.change.target.toJson),
    ("from", .string n.change.before), ("to", .string n.change.after),
    ("cause", .string n.change.cause.name)]

end Notification

namespace Feed

/-- The smallest power of two that is at least the requested number, and at least one. -/
def capacityFor (requested : Nat) : Nat := Nat.nextPowerOfTwo (max requested 1)

def ofCapacity (requested : Nat) : Feed := ⟨capacityFor requested, [], 0, []⟩

def subscriberCount (f : Feed) : Nat := f.subscribers.length

def hasSubscriber (f : Feed) (name : String) : Bool := f.subscribers.any (·.name == name)

def unsubscribe (f : Feed) (name : String) : Feed :=
  { f with subscribers := f.subscribers.filter (·.name != name) }

def subscribe (f : Feed) (name : String) : Feed :=
  { f with subscribers := (f.unsubscribe name).subscribers ++ [⟨name, f.sent⟩] }

def publish (f : Feed) (ns : List Notification) : Feed :=
  let all := f.kept ++ ns
  { f with kept := all.drop (all.length - f.capacity), sent := f.sent + ns.length }

def oldest (f : Feed) : Nat := f.sent - f.kept.length

def pending (f : Feed) (s : Subscriber) : List Delivery :=
  (if s.next < f.oldest then [Delivery.lagged (f.oldest - s.next)] else []) ++
    (f.kept.drop (s.next - f.oldest)).map .notification

def drain (f : Feed) (name : String) : Option (Feed × List Delivery) :=
  (f.subscribers.find? (·.name == name)).map fun s =>
    ({ f with
        subscribers :=
          f.subscribers.map fun t => if t.name = name then { t with next := f.sent } else t },
      f.pending s)

end Feed
end MissionTracking
