import Mathlib.Data.List.Basic

/-!
Systems that take one input after the other, each answered in turn. Two systems whose related states
answer alike and stay related answer alike throughout, and what each input keeps is kept by all of
them. A system in which each input concerns one lane of the state works on every lane as if it had
been given the inputs of that lane only.
-/
namespace MissionTracking

def steps (step : σ → ι → σ × ο) : σ → List ι → σ × List ο
  | s, [] => (s, [])
  | s, i :: is =>
    let next := step s i
    let rest := steps step next.1 is
    (rest.1, next.2 :: rest.2)

variable {step : σ → ι → σ × ο}

theorem length_steps (s : σ) (is : List ι) : (steps step s is).2.length = is.length := by
  induction is generalizing s with
  | nil => rfl
  | cons i is ih => simp only [steps, List.length_cons, ih]

theorem steps_append (s : σ) (is js : List ι) :
    steps step s (is ++ js) = ((steps step (steps step s is).1 js).1,
      (steps step s is).2 ++ (steps step (steps step s is).1 js).2) := by
  induction is generalizing s with
  | nil => rfl
  | cons i is ih => simp only [List.cons_append, steps, ih]

theorem steps_simulation {other : τ → ι → τ × ο} {related : σ → τ → Prop}
    (alike : ∀ s t i,
      related s t → (step s i).2 = (other t i).2 ∧ related (step s i).1 (other t i).1)
    {s : σ} {t : τ} (initial : related s t) (is : List ι) :
    (steps step s is).2 = (steps other t is).2 ∧
    related (steps step s is).1 (steps other t is).1 := by
  induction is generalizing s t with
  | nil => exact ⟨rfl, initial⟩
  | cons i is ih =>
    obtain ⟨answer, next⟩ := alike s t i initial
    obtain ⟨answers, last⟩ := ih next
    exact ⟨by simp only [steps, answer, answers], last⟩

theorem steps_keep {kept : σ → Prop} {is : List ι}
    (each : ∀ s, ∀ i ∈ is, kept s → kept (step s i).1) {s : σ} (initial : kept s) :
    kept (steps step s is).1 := by
  induction is generalizing s with
  | nil => exact initial
  | cons i is ih =>
    have first := each s i List.mem_cons_self initial
    exact ih (fun s i member => each s i (List.mem_cons_of_mem _ member)) first

def inLane [DecidableEq κ] (lane : ι → κ) (k : κ) (is : List ι) : List ι :=
  is.filter fun i => lane i = k

/-- When an input acts on its own lane, and on no other, a lane sees its own inputs only, and
answers to them as it would by itself. -/
theorem steps_lanes [DecidableEq κ] {lane : ι → κ} {view : σ → κ → τ} {laneStep : τ → ι → τ × ο}
    {kept : σ → Prop}
    (each : ∀ s i, kept s → kept (step s i).1 ∧ (step s i).2 = (laneStep (view s (lane i)) i).2 ∧
      ∀ k, view (step s i).1 k = if lane i = k then (laneStep (view s k) i).1 else view s k)
    {s : σ} (initial : kept s) (is : List ι) (k : κ) :
    view (steps step s is).1 k = (steps laneStep (view s k) (inLane lane k is)).1 ∧
      inLane (fun answered : ι × ο => lane answered.1) k (is.zip (steps step s is).2) =
        (inLane lane k is).zip (steps laneStep (view s k) (inLane lane k is)).2 := by
  induction is generalizing s with
  | nil => exact ⟨rfl, rfl⟩
  | cons i is ih =>
    obtain ⟨next, answer, views⟩ := each s i initial
    obtain ⟨state, answers⟩ := ih next
    rw [views] at state answers
    simp only [inLane] at state answers ⊢
    by_cases here : lane i = k
    · subst here
      simp only [if_true] at state answers
      simp only [steps, List.zip_cons_cons, List.filter_cons, decide_true, if_true, state,
        answers, answer, and_self]
    · simp only [here, if_false] at state answers
      simp only [steps, List.zip_cons_cons, List.filter_cons, here, decide_false,
        Bool.false_eq_true, if_false, state, answers, and_self]

end MissionTracking
