import MissionTracking.Ingestion
import MissionTracking.Proofs.Steps
import MissionTracking.Proofs.Store.Coherence

/-!
Sequences of calls of a store. What a store is asked and what it answers does not depend on what it
keeps, so the same calls can be put to two stores and their answers compared. Every store that calls
lead to from the empty one is coherent, and a run that is found by its external id is found by it
until it is deleted.
-/
namespace MissionTracking

/-- A change to a stored run that keeps the ids it is stored and found under. -/
structure Amendment (α : Type) where
  apply : MissionRun → Mutation α
  keeps : ∀ r changed answer, apply r = .commit changed answer →
    changed.id = r.id ∧ changed.externalMissionId = r.externalMissionId

def StatusReport.amendment (externalMissionId : String) (report : StatusReport) :
    Amendment Outcome where
  apply := report.mutation externalMissionId
  keeps r changed answer decided := by
    unfold mutation at decided
    split at decided
    · rename_i received
      cases decided
      have made := MissionRun.after_of_receive received
      exact ⟨made ▸ r.after_id report, made ▸ r.after_externalMissionId report⟩
    · cases decided

inductive StoreCall (α : Type) where
  | create (run : MissionRun)
  | find (id : String)
  | delete (id : String)
  | assign (id : String) (assignment : Assignment)
  | mutate (externalId : String) (amendment : Amendment α)
  | page (query : RunQuery) (window : PageWindow)

inductive StoreAnswer (α : Type) where
  | created (result : Except ValidationError MissionRun)
  | found (run : Option MissionRun)
  | deleted (run : Option MissionRun)
  | assigned (result : Except ValidationError (Option MissionRun))
  | mutated (result : Option (MissionRun × α))
  | page (page : QueryPage)

structure StoreOperations (σ : Type) where
  create : σ → MissionRun → Except ValidationError σ
  find? : σ → String → Option MissionRun
  delete : σ → String → Option (σ × MissionRun)
  assign : σ → String → Assignment → Except ValidationError (Option (σ × MissionRun))
  mutate : {α : Type} → σ → String → (MissionRun → Mutation α) → Option (σ × MissionRun × α)
  page : σ → RunQuery → PageWindow → QueryPage

def StoreOperations.perform (ops : StoreOperations σ) (s : σ) : StoreCall α → σ × StoreAnswer α
  | .create r =>
    match ops.create s r with
    | .ok next => (next, .created (.ok r))
    | .error e => (s, .created (.error e))
  | .find id => (s, .found (ops.find? s id))
  | .delete id =>
    match ops.delete s id with
    | some (next, r) => (next, .deleted (some r))
    | none => (s, .deleted none)
  | .assign id a =>
    match ops.assign s id a with
    | .ok (some (next, r)) => (next, .assigned (.ok (some r)))
    | .ok none => (s, .assigned (.ok none))
    | .error e => (s, .assigned (.error e))
  | .mutate e amendment =>
    match ops.mutate s e amendment.apply with
    | some (next, r, answer) => (next, .mutated (some (r, answer)))
    | none => (s, .mutated none)
  | .page q window => (s, .page (ops.page s q window))

namespace Store

def operations : StoreOperations Store where
  create := create
  find? := find?
  delete := delete
  assign := assign
  mutate := mutate
  page := page

def perform (s : Store) (c : StoreCall α) : Store × StoreAnswer α := operations.perform s c

/-- The stores that calls lead to from the empty one. -/
inductive Reachable : Store → Prop where
  | empty : Reachable .empty
  | call {α : Type} {s : Store} (c : StoreCall α)
      (reachable : Reachable s) : Reachable (s.perform c).1

theorem perform_cases (s : Store) (c : StoreCall α) :
    (s.perform c).1 = s ∨
    (∃ r next, c = .create r ∧ s.create r = .ok next ∧ (s.perform c).1 = next) ∨
    (∃ id r next, c = .delete id ∧ s.delete id = some (next, r) ∧ (s.perform c).1 = next) ∨
    (∃ id a r next,
      c = .assign id a ∧ s.assign id a = .ok (some (next, r)) ∧ (s.perform c).1 = next) ∨
    ∃ e amendment r answer next, c = .mutate e amendment ∧
      s.mutate e amendment.apply = some (next, r, answer) ∧ (s.perform c).1 = next := by
  cases c with
  | create r =>
    cases done : s.create r with
    | error e => exact .inl (by simp only [perform, StoreOperations.perform, operations, done])
    | ok next =>
      refine .inr (.inl ⟨r, next, rfl, done, ?_⟩)
      simp only [perform, StoreOperations.perform, operations, done]
  | find id => exact .inl rfl
  | delete id =>
    cases done : s.delete id with
    | none => exact .inl (by simp only [perform, StoreOperations.perform, operations, done])
    | some removed =>
      obtain ⟨next, r⟩ := removed
      refine .inr (.inr (.inl ⟨id, r, next, rfl, done, ?_⟩))
      simp only [perform, StoreOperations.perform, operations, done]
  | assign id a =>
    rcases done : s.assign id a with e | _ | ⟨next, r⟩
    · exact .inl (by simp only [perform, StoreOperations.perform, operations, done])
    · exact .inl (by simp only [perform, StoreOperations.perform, operations, done])
    · refine .inr (.inr (.inr (.inl ⟨id, a, r, next, rfl, done, ?_⟩)))
      simp only [perform, StoreOperations.perform, operations, done]
  | mutate e amendment =>
    rcases done : s.mutate e amendment.apply with _ | ⟨next, r, answer⟩
    · exact .inl (by simp only [perform, StoreOperations.perform, operations, done])
    · refine .inr (.inr (.inr (.inr ⟨e, amendment, r, answer, next, rfl, done, ?_⟩)))
      simp only [perform, StoreOperations.perform, operations, done]
  | page q window => exact .inl rfl

theorem Coherent.perform {s : Store} (h : s.Coherent) (c : StoreCall α) :
    (s.perform c).1.Coherent := by
  rcases s.perform_cases c with same | ⟨_, _, _, done, made⟩ | ⟨_, _, _, _, done, made⟩ |
    ⟨_, _, _, _, _, done, made⟩ | ⟨_, amendment, _, _, _, _, done, made⟩
  · rwa [same]
  · rw [made]
    exact h.create done
  · rw [made]
    exact h.delete done
  · rw [made]
    exact h.assign done
  · rw [made]
    exact h.mutate amendment.keeps done

theorem Reachable.coherent {s : Store} (reachable : s.Reachable) : s.Coherent := by
  induction reachable with
  | empty => exact Coherent.empty
  | call c _ ih => exact ih.perform c

theorem Carries.change {s next : Store} {id q e : String} {r : MissionRun}
    (carried : s.Carries id e) (lookups : ∀ p, next.find? p = if q = p then some r else s.find? p)
    (held : q = id → r.externalMissionId = some e) : next.Carries id e := by
  obtain ⟨run, found, carries⟩ := carried
  by_cases here : q = id
  · exact ⟨r, by rw [lookups, if_pos here], held here⟩
  · exact ⟨run, by rw [lookups, if_neg here]; exact found, carries⟩

theorem Carries.perform {s : Store} {id e : String} (carried : s.Carries id e) {c : StoreCall α}
    (other : c ≠ .delete id) : (s.perform c).1.Carries id e := by
  have ⟨run, found, carries⟩ := carried
  rcases s.perform_cases c with same | ⟨r, next, rfl, done, made⟩ | ⟨q, r, next, rfl, done, made⟩ |
    ⟨q, a, r, next, rfl, done, made⟩ | ⟨f, amendment, r, answer, next, rfl, done, made⟩
  · rwa [same]
  · rw [made]
    apply carried.change (find?_create done)
    intro here
    obtain ⟨fresh, _, _⟩ := create_ok done
    rw [here, found] at fresh
    cases fresh
  · rw [made]
    have elsewhere : q ≠ id := by
      rintro rfl
      exact other rfl
    exact ⟨run, by rw [find?_delete done, if_neg elsewhere]; exact found, carries⟩
  · rw [made]
    apply carried.change (find?_assign done)
    rintro rfl
    obtain ⟨run', found', applied, _, _⟩ := assign_ok done
    cases found.symm.trans found'
    exact (Assignment.applied_keeps applied).held carries
  · rw [made]
    obtain ⟨q, run', resolved, lookups⟩ := find?_mutate done
    apply carried.change lookups
    rintro rfl
    cases found.symm.trans (resolve?_find resolved)
    obtain ⟨_, _, resolved', ⟨decided, _⟩ | ⟨_, rfl, _⟩⟩ := mutate_some done
    · cases resolved.symm.trans resolved'
      exact (amendment.keeps _ _ _ decided).2.trans carries
    · cases resolved.symm.trans resolved'
      exact carries

/-- A run that an external id leads to is found by it after any calls that do not delete the run. -/
theorem Carries.calls {s : Store} {id e : String} (carried : s.Carries id e) (h : s.Coherent)
    {cs : List (StoreCall α)} (others : ∀ c ∈ cs, c ≠ .delete id) :
    ∃ r, (steps Store.perform s cs).1.resolve? e = some (id, r) := by
  have each : ∀ s : Store, ∀ c ∈ cs, s.Coherent ∧ s.Carries id e →
      (s.perform c).1.Coherent ∧ (s.perform c).1.Carries id e := by
    intro s c member kept
    exact ⟨kept.1.perform c, kept.2.perform (others c member)⟩
  obtain ⟨coherent, r, found, held⟩ := steps_keep each ⟨h, carried⟩
  exact ⟨r, coherent.resolve?_eq_some_iff.mpr ⟨found, held⟩⟩

end Store
end MissionTracking
