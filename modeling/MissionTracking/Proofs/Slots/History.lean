import MissionTracking.Proofs.Slots.Report
import Mathlib.Data.List.Induction

/-!
A history of reports against the slots. Each slot holds what the last report that writes it wrote,
or its first value when no report does. Whether a report starts later tasks over depends on the
mission status at that moment, which is itself read off the reports before it; no other part of the
state is consulted.
-/
namespace MissionTracking

/-- What a history leaves in a slot, when an event may write the slot in view of the history before
it. -/
inductive LastWrite (write : List ε → ε → Option α) (initial : α) (history : List ε) :
    α → Prop where
  | written {before : List ε} {event : ε} {later : List ε} {value : α}
      (split : history = before ++ event :: later)
      (writes : write before event = some value)
      (silent : ∀ between next rest, later = between ++ next :: rest →
        write (before ++ event :: between) next = none) : LastWrite write initial history value
  | untouched (silent : ∀ before event later,
    history = before ++ event :: later → write before event = none) :
      LastWrite write initial history initial

theorem split_concat {history before later : List ε} {event last : ε}
    (split : history ++ [last] = before ++ event :: later) :
    (before = history ∧ event = last ∧ later = []) ∨
      ∃ inner, later = inner ++ [last] ∧ history = before ++ event :: inner := by
  rcases List.eq_nil_or_concat later with rfl | ⟨inner, final, rfl⟩
  · obtain ⟨same, single⟩ := List.append_inj' split rfl
    exact .inl ⟨same.symm, (List.singleton_inj.mp single).symm, rfl⟩
  · have regrouped : history ++ [last] = (before ++ event :: inner) ++ [final] := by
      simpa using split
    obtain ⟨same, single⟩ := List.append_inj' regrouped rfl
    cases List.singleton_inj.mp single
    exact .inr ⟨inner, by simp, same⟩

namespace LastWrite
variable {write : List ε → ε → Option α} {initial value other : α} {history : List ε}

theorem nil : LastWrite write initial [] initial :=
  .untouched fun before event later split => by simp at split

theorem concat (known : LastWrite write initial history value) (event : ε) :
    LastWrite write initial (history ++ [event]) ((write history event).getD value) := by
  cases writes : write history event with
  | some new =>
    refine .written rfl writes ?_
    intro between next rest split
    simp at split
  | none =>
    rw [Option.getD_none]
    cases known with
    | @written before first later value split first_writes silent =>
      subst split
      refine .written (List.append_assoc before (first :: later) [event]) first_writes ?_
      intro between next rest tail
      rcases split_concat tail with ⟨rfl, rfl, _⟩ | ⟨inner, _, earlier⟩
      · exact writes
      · exact silent between next inner earlier
    | untouched silent =>
      refine .untouched ?_
      intro before next later split
      rcases split_concat split with ⟨rfl, rfl, _⟩ | ⟨inner, _, earlier⟩
      · exact writes
      · exact silent before next inner earlier

theorem of_nil (known : LastWrite write initial [] value) : value = initial := by
  cases known with
  | written split => simp at split
  | untouched => rfl

theorem of_concat {event : ε} (known : LastWrite write initial (history ++ [event]) value) :
    write history event = some value ∨
    (write history event = none ∧ LastWrite write initial history value) := by
  cases known with
  | @written before first later value split writes silent =>
    rcases split_concat split with ⟨rfl, rfl, _⟩ | ⟨inner, rfl, rfl⟩
    · exact .inl writes
    · refine .inr ⟨silent inner event [] rfl, .written rfl writes ?_⟩
      intro between next rest earlier
      exact silent between next (rest ++ [event]) (by simp [earlier])
  | untouched silent =>
    refine .inr ⟨silent history event [] rfl, .untouched ?_⟩
    intro before next later earlier
    exact silent before next (later ++ [event]) (by simp [earlier])

theorem unique (first : LastWrite write initial history value)
    (second : LastWrite write initial history other) : value = other := by
  induction history using List.reverseRecOn generalizing value other with
  | nil => exact first.of_nil.trans second.of_nil.symm
  | append_singleton history event ih =>
    rcases first.of_concat with writes | ⟨silent, earlier⟩
    · rcases second.of_concat with writes' | ⟨silent', _⟩
      · exact Option.some.inj (writes.symm.trans writes')
      · cases writes.symm.trans silent'
    · rcases second.of_concat with writes' | ⟨_, earlier'⟩
      · cases silent.symm.trans writes'
      · exact ih earlier earlier'

end LastWrite

namespace MissionRun

/-- The mission status after a history: the last one that a mission report gave, or ongoing by a
task in progress, whichever came later, or else the first. -/
def missionAfter (r : MissionRun) (history : List StatusReport) : MissionStatus :=
  (history.filterMap r.missionWrite).getLast?.getD r.status

def statusesAfter (r : MissionRun) (history : List StatusReport) : Statuses :=
  history.foldl (fun s report => s.after r report) r.statuses

variable (r : MissionRun)

theorem foldl_after (history : List StatusReport) :
    history.foldl after r = r.withStatuses (r.statusesAfter history) := by
  induction history using List.reverseRecOn with
  | nil => exact r.withStatuses_statuses.symm
  | append_singleton history report ih =>
    simp only [statusesAfter, List.foldl_append, List.foldl_cons, List.foldl_nil] at ih ⊢
    rw [ih, after_withStatuses]

theorem statusesAfter_concat (history : List StatusReport) (report : StatusReport) :
    r.statusesAfter (history ++ [report]) = (r.statusesAfter history).after r report := by
  simp only [statusesAfter, List.foldl_append, List.foldl_cons, List.foldl_nil]

theorem missionAfter_concat (history : List StatusReport) (report : StatusReport) :
    r.missionAfter (history ++ [report]) =
    (r.missionWrite report).getD (r.missionAfter history) := by
  simp only [missionAfter, List.filterMap_append, List.filterMap_cons, List.filterMap_nil]
  cases r.missionWrite report <;> simp

theorem statusesAfter_mission (history : List StatusReport) :
    (r.statusesAfter history).mission = r.missionAfter history := by
  induction history using List.reverseRecOn with
  | nil => rfl
  | append_singleton history report ih =>
    rw [statusesAfter_concat, missionAfter_concat, Statuses.after, ih]

theorem statusesAfter_task (j : Nat) (history : List StatusReport) :
    LastWrite (fun before report => r.taskWrite j (r.missionAfter before) report)
      (r.statuses.task j) history ((r.statusesAfter history).task j) := by
  induction history using List.reverseRecOn with
  | nil => exact .nil
  | append_singleton history report ih =>
    have next := ih.concat report
    rwa [statusesAfter_concat, Statuses.after, statusesAfter_mission]

theorem statusesAfter_step (j k : Nat) (history : List StatusReport) :
    LastWrite (fun before report => r.stepWrite j k (r.missionAfter before) report)
      (r.statuses.step j k) history ((r.statusesAfter history).step j k) := by
  induction history using List.reverseRecOn with
  | nil => exact .nil
  | append_singleton history report ih =>
    have next := ih.concat report
    rwa [statusesAfter_concat, Statuses.after, statusesAfter_mission]

/-- Slot by slot, what a history makes of a run; all else stays. A report writes a slot in view of
the mission status that the reports before it left. -/
def Becomes (r : MissionRun) (history : List StatusReport) (final : MissionRun) : Prop :=
  ∃ s : Statuses, final = r.withStatuses s ∧ s.mission = r.missionAfter history ∧
    ∀ (j : Nat) (t : MissionTask), r.tasks[j]? = some t →
      LastWrite (fun before report => r.taskWrite j (r.missionAfter before) report) t.status history
        (s.task j) ∧
      ∀ (k : Nat) (i : Inspection), t.inspections[k]? = some i →
        LastWrite (fun before report => r.stepWrite j k (r.missionAfter before) report) i.status
          history (s.step j k)

theorem becomes_foldl_after (history : List StatusReport) :
    r.Becomes history (history.foldl after r) := by
  refine ⟨r.statusesAfter history, r.foldl_after history, r.statusesAfter_mission history, ?_⟩
  intro j t hj
  constructor
  · rw [← r.statuses_task hj]
    exact r.statusesAfter_task j history
  · intro k i hk
    rw [← r.statuses_step hj hk]
    exact r.statusesAfter_step j k history

theorem Becomes.unique {r a b : MissionRun} {history : List StatusReport}
    (first : r.Becomes history a) (second : r.Becomes history b) : a = b := by
  obtain ⟨s, rfl, mission, slots⟩ := first
  obtain ⟨s', rfl, mission', slots'⟩ := second
  refine withStatuses_congr (mission.trans mission'.symm) ?_ ?_
  · intro j t hj
    exact (slots j t hj).1.unique (slots' j t hj).1
  · intro j k t i hj hk
    exact ((slots j t hj).2 k i hk).unique ((slots' j t hj).2 k i hk)

/-- The run after any history of reports is the one run whose slots hold what the history left in
them. -/
theorem foldl_after_eq_iff_becomes (r : MissionRun) (history : List StatusReport)
    (final : MissionRun) : history.foldl after r = final ↔ r.Becomes history final := by
  constructor
  · rintro rfl
    exact r.becomes_foldl_after history
  · intro follows
    exact (r.becomes_foldl_after history).unique follows

end MissionRun
end MissionTracking
