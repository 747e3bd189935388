import Mathlib.Data.List.Forall2

/-!
Steps that may be refused. A sequence of them gives a result exactly when every step gives one, and
a list that is gone through by such a step exactly when the step gives a result for every member.
-/
namespace MissionTracking

theorem map_ok_iff {x : Except ε α} {f : α → β} {b : β} :
    x.map f = .ok b ↔ ∃ a, x = .ok a ∧ f a = b := by
  cases x with
  | error e => simp only [Except.map, reduceCtorEq, false_and, exists_false]
  | ok a => simp only [Except.map, Except.ok.injEq, exists_eq_left']

theorem map_error_iff {x : Except ε α} {f : α → β} {e : ε} : x.map f = .error e ↔ x = .error e := by
  cases x with
  | error e => simp only [Except.map, Except.error.injEq]
  | ok a => simp only [Except.map, reduceCtorEq]

theorem bind_ok_iff {x : Except ε α} {f : α → Except ε β} {b : β} :
    x >>= f = .ok b ↔ ∃ a, x = .ok a ∧ f a = .ok b := by
  cases x with
  | error e => simp only [bind, Except.bind, reduceCtorEq, false_and, exists_false]
  | ok a => simp only [bind, Except.bind, Except.ok.injEq, exists_eq_left']

theorem mapM_ok_iff {f : α → Except ε β} {R : β → α → Prop} {as : List α} {bs : List β}
    (each : ∀ a ∈ as, ∀ b, f a = .ok b ↔ R b a) : as.mapM f = .ok bs ↔ List.Forall₂ R bs as := by
  induction as generalizing bs with
  | nil =>
    rw [List.mapM_nil, List.forall₂_nil_right_iff]
    exact ⟨fun read => (Except.ok.inj read).symm, fun empty => congrArg Except.ok empty.symm⟩
  | cons a as ih =>
    obtain ⟨head, tail⟩ := List.forall_mem_cons.mp each
    rw [List.mapM_cons, List.forall₂_cons_right_iff]
    simp only [bind_ok_iff, head, ih tail]
    constructor
    · rintro ⟨b, first, bs, later, whole⟩
      exact ⟨b, bs, first, later, (Except.ok.inj whole).symm⟩
    · rintro ⟨b, bs, first, later, rfl⟩
      exact ⟨b, first, bs, later, rfl⟩

end MissionTracking
