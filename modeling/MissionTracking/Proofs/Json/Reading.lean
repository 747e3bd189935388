import MissionTracking.Json.Reader
import MissionTracking.Proofs.Json.Token

/-!
Written values read back. The text of a value is taken apart into the tokens it was written from,
and these bring the machine from where a value may begin to where that value is complete, whatever
containers are open around it.
-/
namespace MissionTracking.Json
open Text

/-- All numbers are integers and all strings have content. -/
inductive Plain : Json → Prop where
  | null : Plain .null
  | bool (value : Bool) : Plain (.bool value)
  | int (value : Int) : Plain (.int value)
  | string (value : String) : Plain (.string value)
  | array {items : List Json} (each : ∀ j ∈ items, Plain j) : Plain (.array items)
  | object {members : List (String × Json)}
      (each : ∀ m ∈ members, Plain m.2) : Plain (.object members)

/-- The texts of these tokens are read as these tokens, before anything that cannot go on with a
number. -/
def Separable (ts : List Token) : Prop :=
  ∀ rest, Stops isNumberChar rest →
  tokens? (ts.flatMap Token.text ++ rest) = (tokens? rest).map (ts ++ ·)

theorem separable_singleton {t : Token} (plain : t.Plain) : Separable [t] := by
  intro rest stops
  simp [tokens?_text plain fun _ => stops]

theorem Separable.cons {t : Token} {ts : List Token} (plain : t.Plain) (mark : t.isScalar = false)
    (tail : Separable ts) : Separable (t :: ts) := by
  intro rest stops
  rw [List.flatMap_cons, List.append_assoc, tokens?_text plain (by simp [mark]), tail rest stops,
    Option.map_map]
  rfl

theorem Separable.append {ts us : List Token} (first : Separable ts) (second : Separable us)
    (apart : ∀ rest, Stops isNumberChar (us.flatMap Token.text ++ rest)) :
    Separable (ts ++ us) := by
  intro rest stops
  rw [List.flatMap_append, List.append_assoc, first _ (apart rest), second rest stops,
    Option.map_map]
  simp [Function.comp_def]

theorem stops_itemTokens (js : List Json) (rest : List Char) :
    Stops isNumberChar ((itemTokens js).flatMap Token.text ++ rest) := by
  cases js with
  | nil => exact stops_cons rfl
  | cons j js => exact stops_cons rfl

theorem stops_memberTokens (ms : List (String × Json)) (rest : List Char) :
    Stops isNumberChar ((memberTokens ms).flatMap Token.text ++ rest) := by
  cases ms with
  | nil => exact stops_cons rfl
  | cons m ms => exact stops_cons rfl

theorem separable_itemTokens {js : List Json} (each : ∀ j ∈ js, Separable (tokens j)) :
    Separable (itemTokens js) := by
  induction js with
  | nil => exact separable_singleton trivial
  | cons j js ih =>
    have rest := ih fun k member => each k (List.mem_cons_of_mem _ member)
    rw [itemTokens]
    exact .cons trivial rfl ((each j List.mem_cons_self).append rest (stops_itemTokens js))

theorem separable_memberTokens {ms : List (String × Json)}
    (each : ∀ m ∈ ms, Separable (tokens m.2)) : Separable (memberTokens ms) := by
  induction ms with
  | nil => exact separable_singleton trivial
  | cons m ms ih =>
    have rest := ih fun n member => each n (List.mem_cons_of_mem _ member)
    have value := (each m List.mem_cons_self).append rest (stops_memberTokens ms)
    rw [memberTokens]
    exact .cons trivial rfl (.cons trivial rfl (.cons trivial rfl value))

theorem Plain.separable {j : Json} (plain : j.Plain) : Separable (tokens j) := by
  induction plain with
  | null | bool | int | string => exact separable_singleton trivial
  | @array items _ ih =>
    cases items with
    | nil => exact .cons trivial rfl (separable_singleton trivial)
    | cons j js =>
      have rest := separable_itemTokens fun k member => ih k (List.mem_cons_of_mem _ member)
      rw [tokens]
      exact .cons trivial rfl ((ih j List.mem_cons_self).append rest (stops_itemTokens js))
  | @object members _ ih =>
    cases members with
    | nil => exact .cons trivial rfl (separable_singleton trivial)
    | cons m ms =>
      have rest := separable_memberTokens fun n member => ih n (List.mem_cons_of_mem _ member)
      have value := (ih m List.mem_cons_self).append rest (stops_memberTokens ms)
      rw [tokens]
      exact .cons trivial rfl (.cons trivial rfl (.cons trivial rfl value))

theorem Plain.tokens?_text {j : Json} (plain : j.Plain) :
    tokens? j.text.toList = some (tokens j) := by
  have nothing : tokens? [] = some [] := by rw [tokens?]; rfl
  have read := plain.separable [] stops_nil
  simpa [text, nothing] using read

/-- The tokens complete the value wherever a value may begin. -/
def Builds (ts : List Token) (j : Json) : Prop :=
  ∀ stack, ts.foldlM step (.value, stack) = some (.after j, stack)

theorem Builds.firstItem {ts : List Token} {j : Json} (builds : Builds ts j) (stack : List Frame) :
    ts.foldlM step (.firstItem, stack) = some (.after j, .array [] :: stack) := by
  cases ts with
  | nil => cases builds []
  | cons t ts =>
    have value := builds (.array [] :: stack)
    cases t with
    | closeArray => cases value
    | openObject | closeObject | openArray | colon | comma | string | unpaired | scalar =>
      exact value

theorem foldlM_itemTokens {js : List Json} (each : ∀ j ∈ js, Builds (tokens j) j)
    (before : List Json) (j : Json) (stack : List Frame) :
    (itemTokens js).foldlM step (.after j, .array before.reverse :: stack) =
      some (.after (.array (before ++ j :: js)), stack) := by
  induction js generalizing before j with
  | nil => simp [itemTokens, step]
  | cons k js ih =>
    have next := each k List.mem_cons_self (.array (j :: before.reverse) :: stack)
    have rest := ih (fun i member => each i (List.mem_cons_of_mem _ member)) (before ++ [j]) k
    simp only [List.reverse_append, List.reverse_singleton, List.singleton_append,
      List.append_assoc] at rest
    simp only [itemTokens, List.foldlM_cons, step, Option.bind_eq_bind, Option.bind_some,
      List.foldlM_append, next, rest]

def keyed (m : String × Json) : Key × Json := (some m.1, m.2)

theorem closed_keyed (ms : List (String × Json)) : closed (ms.map keyed).reverse = .object ms := by
  have keys : (ms.map keyed).mapM (fun m => m.1.map (·, m.2)) = some ms := by
    induction ms with
    | nil => rfl
    | cons m ms ih => simp [keyed, ih]
  rw [closed, List.reverse_reverse, keys]

theorem cons_keyed (before : List (String × Json)) (k : String) (j : Json) :
    (some k, j) :: (before.map keyed).reverse = ((before ++ [(k, j)]).map keyed).reverse := by
  simp [keyed]

theorem foldlM_memberTokens {ms : List (String × Json)} (each : ∀ m ∈ ms, Builds (tokens m.2) m.2)
    (before : List (String × Json)) (k : String) (j : Json) (stack : List Frame) :
    (memberTokens ms).foldlM step (.after j, .object (before.map keyed).reverse (some k) :: stack) =
      some (.after (.object (before ++ (k, j) :: ms)), stack) := by
  induction ms generalizing before k j with
  | nil =>
    rw [memberTokens, List.foldlM_cons, step, cons_keyed, closed_keyed]
    rfl
  | cons m ms ih =>
    have next := each m List.mem_cons_self
      (.object ((before ++ [(k, j)]).map keyed).reverse (some m.1) :: stack)
    have rest :=
      ih (fun n member => each n (List.mem_cons_of_mem _ member)) (before ++ [(k, j)]) m.1 m.2
    rw [List.append_assoc, List.singleton_append] at rest
    simp only [memberTokens, List.foldlM_cons, step, beginKey, Option.bind_eq_bind,
      Option.bind_some, List.foldlM_append, cons_keyed, next, rest]

theorem Plain.builds {j : Json} (plain : j.Plain) : Builds (tokens j) j := by
  induction plain with
  | null | bool | int | string => intro stack; rfl
  | @array items _ ih =>
    intro stack
    cases items with
    | nil => rfl
    | cons j js =>
      have first := (ih j List.mem_cons_self).firstItem stack
      have rest :=
        foldlM_itemTokens (fun k member => ih k (List.mem_cons_of_mem _ member)) [] j stack
      simp only [tokens, List.foldlM_cons, step, beginValue, Option.bind_eq_bind, Option.bind_some,
        List.foldlM_append, first]
      exact rest
  | @object members _ ih =>
    intro stack
    cases members with
    | nil => rfl
    | cons m ms =>
      have first := ih m List.mem_cons_self (.object [] (some m.1) :: stack)
      have rest :=
        foldlM_memberTokens (fun n member => ih n (List.mem_cons_of_mem _ member)) [] m.1 m.2 stack
      simp only [tokens, List.foldlM_cons, step, beginValue, beginKey, Option.bind_eq_bind,
        Option.bind_some, List.foldlM_append, first]
      exact rest

theorem Plain.parse?_text {j : Json} (plain : j.Plain) : parse? j.text = some j := by
  rw [parse?, plain.tokens?_text, Option.bind_some, ofTokens?, plain.builds]

end MissionTracking.Json
