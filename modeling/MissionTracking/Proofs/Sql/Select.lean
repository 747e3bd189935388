import MissionTracking.Proofs.Sql.Expression

/-!
Statements that select from one table, clause by clause in the order of the language. As for
expressions, a statement has one row of tokens, and reading them gives back the statement.
-/
namespace MissionTracking.Sql

inductive Target where
  | column (name : String)
  | aggregate (function : String)
deriving DecidableEq, Repr

structure Term where
  key : Expr
  ascending : Bool
  nullsFirst : Option Bool
deriving DecidableEq, Repr

structure Select where
  target : Target
  table : String
  condition : Option Expr
  order : List Term
  limit : Option Expr
  offset : Option Expr
deriving DecidableEq, Repr

namespace Target

def tokens : Target → List Token
  | .column c => [.name c]
  | .aggregate f => [.name f, .openParen, .sign .star, .closeParen]

end Target

namespace Term

def tokens (t : Term) : List Token :=
  t.key.tokens ++ .keyword (if t.ascending then .ASC else .DESC) ::
    match t.nullsFirst with
    | some true => [.keyword .NULLS, .keyword .FIRST]
    | some false => [.keyword .NULLS, .keyword .LAST]
    | none => []

end Term

def clauseTokens (k : Keyword) : Option Expr → List Token
  | none => []
  | some e => .keyword k :: e.tokens

def orderTokens : List Term → List Token
  | [] => []
  | t :: ts =>
    .keyword .ORDER :: .keyword .BY :: (t.tokens ++ ts.flatMap fun t => .comma :: t.tokens)

namespace Select

def clauseTokens (s : Select) : List Token :=
  Sql.clauseTokens .WHERE s.condition ++ (orderTokens s.order ++
    (Sql.clauseTokens .LIMIT s.limit ++ Sql.clauseTokens .OFFSET s.offset))

def tokens (s : Select) : List Token :=
  .keyword .SELECT :: (s.target.tokens ++ .keyword .FROM :: .name s.table :: s.clauseTokens)

structure Fits (s : Select) : Prop where
  condition : ∀ e ∈ s.condition, e.Fits
  order : ∀ t ∈ s.order, t.key.Fits
  limit : ∀ e ∈ s.limit, e.Fits
  offset : ∀ e ∈ s.offset, e.Fits

end Select

def target? : List Token → Option (Target × List Token)
  | .name f :: .openParen :: .sign .star :: .closeParen :: ts => some (.aggregate f, ts)
  | .name c :: ts => some (.column c, ts)
  | _ => none

def clause? (k : Keyword) (fuel : Nat) : List Token → Option (Option Expr × List Token)
  | .keyword w :: ts =>
    if w = k then (expression fuel 0 ts).map fun (e, ts) => (some e, ts)
    else some (none, .keyword w :: ts)
  | ts => some (none, ts)

def ascending? : List Token → Bool × List Token
  | .keyword .ASC :: ts => (true, ts)
  | .keyword .DESC :: ts => (false, ts)
  | ts => (true, ts)

def nullsFirst? : List Token → Option Bool × List Token
  | .keyword .NULLS :: .keyword .FIRST :: ts => (some true, ts)
  | .keyword .NULLS :: .keyword .LAST :: ts => (some false, ts)
  | ts => (none, ts)

def term? (fuel : Nat) (ts : List Token) : Option (Term × List Token) :=
  (expression fuel 0 ts).map fun (key, ts) =>
    let (ascending, ts) := ascending? ts
    let (nullsFirst, ts) := nullsFirst? ts
    (⟨key, ascending, nullsFirst⟩, ts)

def terms? : Nat → List Token → Option (List Term × List Token)
  | 0, _ => none
  | fuel + 1, ts =>
    match term? (fuel + 1) ts with
    | none => none
    | some (t, .comma :: ts) => (terms? fuel ts).map fun (others, ts) => (t :: others, ts)
    | some (t, ts) => some ([t], ts)

def order? (fuel : Nat) : List Token → Option (List Term × List Token)
  | .keyword .ORDER :: .keyword .BY :: ts => terms? fuel ts
  | ts => some ([], ts)

namespace Select

def ofClauses? (target : Target) (table : String) (ts : List Token) : Option Select := do
  let fuel := 2 * ts.length
  let (condition, ts) ← clause? .WHERE fuel ts
  let (order, ts) ← order? fuel ts
  let (limit, ts) ← clause? .LIMIT fuel ts
  let (offset, ts) ← clause? .OFFSET fuel ts
  if ts.isEmpty then some { target, table, condition, order, limit, offset } else none

def ofTokens? : List Token → Option Select
  | .keyword .SELECT :: ts =>
    match target? ts with
    | some (target, .keyword .FROM :: .name table :: ts) => ofClauses? target table ts
    | _ => none
  | _ => none

def ofText? (text : String) : Option Select := ofTokens? (Sql.tokens text)

end Select

def Follows (ks : List Keyword) (rest : List Token) : Prop :=
  ∀ t ∈ rest.head?, ∃ k ∈ ks, t = .keyword k

namespace Follows
variable {k : Keyword} {ks : List Keyword} {rest : List Token}

theorem nil (ks : List Keyword) : Follows ks [] := by
  intro t member
  cases member

theorem mono {ls : List Keyword} (follows : Follows ks rest) (within : ks ⊆ ls) :
    Follows ls rest := by
  intro t member
  obtain ⟨w, listed, same⟩ := follows t member
  exact ⟨w, within listed, same⟩

theorem clause (follows : Follows ks rest) (k : Keyword) (e : Option Expr) :
    Follows (k :: ks) (clauseTokens k e ++ rest) := by
  cases e with
  | none => exact follows.mono (List.subset_cons_self _ _)
  | some e =>
    intro t member
    cases member
    exact ⟨k, List.mem_cons_self, rfl⟩

theorem order (follows : Follows ks rest) (ts : List Term) :
    Follows (.ORDER :: ks) (orderTokens ts ++ rest) := by
  cases ts with
  | nil => exact follows.mono (List.subset_cons_self _ _)
  | cons t ts =>
    intro t member
    cases member
    exact ⟨.ORDER, List.mem_cons_self, rfl⟩

theorem ends (follows : Follows [.ORDER, .LIMIT, .OFFSET] rest) : Ends 0 rest := by
  cases rest with
  | nil => exact ⟨by simp, fun found => by cases found⟩
  | cons t ts =>
    obtain ⟨k, listed, rfl⟩ := follows t rfl
    refine .of_none (by simp) ?_ 0
    simp only [List.mem_cons, List.not_mem_nil, or_false] at listed
    rcases listed with rfl | rfl | rfl <;> rfl

theorem clause?_none (follows : Follows ks rest) (other : k ∉ ks) (fuel : Nat) :
    clause? k fuel rest = some (none, rest) := by
  cases rest with
  | nil => rfl
  | cons t ts =>
    obtain ⟨w, listed, rfl⟩ := follows t rfl
    have differs : w ≠ k := by
      rintro rfl
      exact other listed
    rw [clause?, if_neg differs]

theorem clause?_read (follows : Follows ks rest) (other : k ∉ ks)
    (later : ks ⊆ [.ORDER, .LIMIT, .OFFSET]) {e : Option Expr} (fits : ∀ x ∈ e, x.Fits) {fuel : Nat}
    (enough : 2 * (clauseTokens k e).length ≤ fuel) :
    clause? k fuel (clauseTokens k e ++ rest) = some (e, rest) := by
  cases e with
  | none => exact follows.clause?_none other fuel
  | some x =>
    have ends : Ends 0 rest := (follows.mono later).ends
    have reads := Expr.reads (fits x rfl)
    simp only [clauseTokens, List.length_cons] at enough
    rw [clauseTokens, List.cons_append, clause?, if_pos rfl,
      reads.whole (by omega) x.power_pos ends]
    rfl

end Follows

theorem Term.tokens_pos (t : Term) : 0 < t.tokens.length := by
  simp only [tokens, List.length_append, List.length_cons]
  omega

theorem term?_read {t : Term} (fits : t.key.Fits) {rest : List Token}
    (ends : ∀ s ∈ rest.head?, s ≠ .keyword .NULLS) {fuel : Nat}
    (enough : 2 * t.tokens.length ≤ fuel) : term? fuel (t.tokens ++ rest) = some (t, rest) := by
  obtain ⟨key, ascending, nullsFirst⟩ := t
  simp only [Term.tokens, List.length_append, List.length_cons] at enough
  have bare : nullsFirst? rest = (none, rest) := by
    rcases rest with _ | ⟨s, _⟩
    · rfl
    · have other := ends s rfl
      unfold nullsFirst?
      split
      · rename_i same
        cases same
        exact absurd rfl other
      · rename_i same
        cases same
        exact absurd rfl other
      · rfl
  have direction (ts : List Token) :
      ascending? (.keyword (if ascending then .ASC else .DESC) :: ts) = (ascending, ts) := by
    cases ascending <;> rfl
  have closed (ts : List Token) :
      suffix? (.keyword (if ascending then .ASC else .DESC) :: ts) = none := by
    cases ascending <;> rfl
  have reads : key.Reads := Expr.reads fits
  simp only [Term.tokens, List.append_assoc, List.cons_append]
  rw [term?, reads.part (by omega) (by simp) (closed _)]
  simp only [Option.map_some, direction]
  rcases nullsFirst with _ | _ | _
  · simp only [List.nil_append, bare]
  · rfl
  · rfl

theorem terms?_read {t : Term} {ts : List Term} (fits : ∀ t' ∈ t :: ts, t'.key.Fits)
    {rest : List Token} (follows : Follows [.LIMIT, .OFFSET] rest) {fuel : Nat}
    (enough : 2 * (t.tokens ++ ts.flatMap fun t => .comma :: t.tokens).length ≤ fuel) :
    terms? fuel ((t.tokens ++ ts.flatMap fun t => .comma :: t.tokens) ++ rest) =
    some (t :: ts, rest) := by
  -- Induction on the terms after the first; each takes one step of reading, and has a token to pay
  -- for it.
  induction ts generalizing t fuel with
  | nil =>
    simp only [List.flatMap_nil, List.append_nil] at enough ⊢
    have filled := t.tokens_pos
    obtain ⟨k, rfl⟩ : ∃ k, fuel = k + 1 := ⟨fuel - 1, by omega⟩
    have last : ∀ s ∈ rest.head?, s ≠ .keyword .NULLS ∧ s ≠ .comma := by
      intro s member
      obtain ⟨w, listed, rfl⟩ := follows s member
      simp only [List.mem_cons, List.not_mem_nil, or_false] at listed
      rcases listed with rfl | rfl <;> decide
    rw [terms?, term?_read (fits t List.mem_cons_self) (fun s member => (last s member).1) enough]
    rcases rest with _ | ⟨s, _⟩
    · rfl
    · have other := (last s rfl).2
      cases s <;> first | rfl | exact absurd rfl other
  | cons u ts ih =>
    rw [List.flatMap_cons] at enough ⊢
    simp only [List.length_append, List.length_cons] at enough
    have ⟨first, others⟩ := List.forall_mem_cons.mp fits
    obtain ⟨k, rfl⟩ : ∃ k, fuel = k + 1 := ⟨fuel - 1, by omega⟩
    have left : 2 * (u.tokens ++ ts.flatMap fun t => .comma :: t.tokens).length ≤ k := by
      simp only [List.length_append]
      omega
    have read := ih others left
    simp only [List.append_assoc, List.cons_append] at read ⊢
    rw [terms?, term?_read first (by simp) (by omega)]
    simp only [read, Option.map_some]

theorem order?_read {ts : List Term} (fits : ∀ t ∈ ts, t.key.Fits) {rest : List Token}
    (follows : Follows [.LIMIT, .OFFSET] rest) {fuel : Nat}
    (enough : 2 * (orderTokens ts).length ≤ fuel) :
    order? fuel (orderTokens ts ++ rest) = some (ts, rest) := by
  cases ts with
  | nil =>
    rcases rest with _ | ⟨s, _⟩
    · rfl
    · obtain ⟨k, listed, rfl⟩ := follows s rfl
      simp only [List.mem_cons, List.not_mem_nil, or_false] at listed
      rcases listed with rfl | rfl <;> rfl
  | cons t ts =>
    simp only [orderTokens, List.length_cons] at enough
    exact terms?_read fits follows (by omega)

theorem target?_read (t : Target) {ts : List Token} (follows : ts.head? ≠ some .openParen) :
    target? (t.tokens ++ ts) = some (t, ts) := by
  cases t with
  | aggregate f => rfl
  | column c =>
    rcases ts with _ | ⟨s, _⟩
    · rfl
    · cases s <;> first | rfl | exact absurd rfl follows

namespace Select
variable {s : Select}

theorem ofClauses?_read (fits : s.Fits) : ofClauses? s.target s.table s.clauseTokens = some s := by
  -- From the last clause to the first: what follows a clause begins with the key word of a later
  -- one.
  have offset : Follows [.OFFSET] (Sql.clauseTokens .OFFSET s.offset ++ []) :=
    (Follows.nil []).clause .OFFSET s.offset
  have limit := offset.clause .LIMIT s.limit
  have order := limit.order s.order
  obtain ⟨fuel, made⟩ : ∃ fuel, fuel = 2 * s.clauseTokens.length := ⟨_, rfl⟩
  have enough := made
  simp only [clauseTokens, List.length_append] at enough
  have conditionRead := order.clause?_read (k := .WHERE) (by decide) (by decide) fits.condition
    (show 2 * _ ≤ fuel by omega)
  have orderRead := order?_read fits.order limit (show 2 * _ ≤ fuel by omega)
  have limitRead := offset.clause?_read (k := .LIMIT) (by decide) (by decide) fits.limit
    (show 2 * _ ≤ fuel by omega)
  have offsetRead :=
    (Follows.nil []).clause?_read (k := .OFFSET) (by decide) (by decide) fits.offset
    (show 2 * _ ≤ fuel by omega)
  rw [List.append_nil] at conditionRead orderRead limitRead
  unfold ofClauses?
  rw [← made, clauseTokens]
  simp only [conditionRead, orderRead, limitRead, Option.bind_eq_bind, Option.bind_some]
  rw [List.append_nil] at offsetRead
  simp only [offsetRead, Option.bind_some, List.isEmpty_nil, if_true]

theorem ofTokens?_tokens (fits : s.Fits) : ofTokens? s.tokens = some s := by
  rw [tokens, ofTokens?, target?_read s.target (by simp)]
  exact ofClauses?_read fits

end Select
end MissionTracking.Sql
