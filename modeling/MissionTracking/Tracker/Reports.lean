import MissionTracking.Tracker.Basic

/-!
Reports of the controller. What a report changed is published after it is committed. Reports are
dispatched one at a time for each mission: each holds the lane of its mission while it waits and
while it is applied. The missions in flight are counted by holder, one entry for each report that
holds the lane, so that one `erase` lets one report go, and the lane is gone with its last holder.
-/
namespace MissionTracking.Tracker

def audience (t : Tracker) : Option Nat := if t.publishes then some t.feed.subscriberCount else none

def publish (t : Tracker) (ns : List Notification) : Tracker :=
  if t.publishes then { t with feed := t.feed.publish ns } else t

def apply (t : Tracker) (externalMissionId : String) (report : StatusReport) : Reply Outcome :=
  let (store, outcome) := t.store.ingest externalMissionId report
  ⟨outcome, { t with store }.publish (outcome.notifications externalMissionId),
    outcome.records externalMissionId t.audience⟩

def handle (t : Tracker) (e : StatusEvent) : Reply (Except TrackingError Outcome) :=
  match StatusReport.ofEvent e with
  | .ok report =>
    let r := t.apply e.externalMissionId report
    ⟨.ok r.answer, r.tracker, r.log⟩
  | .error error => t.reply (.error error)

def enter (t : Tracker) (externalMissionId : String) : Tracker :=
  { t with inFlight := externalMissionId :: t.inFlight }

def leave (t : Tracker) (externalMissionId : String) : Tracker :=
  { t with inFlight := t.inFlight.erase externalMissionId }

def dispatch (t : Tracker) (e : StatusEvent) : Reply (Except TrackingError Outcome) :=
  let r := (t.enter e.externalMissionId).handle e
  ⟨r.answer, r.tracker.leave e.externalMissionId, .dispatching e :: r.log⟩

end MissionTracking.Tracker
