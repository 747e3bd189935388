import MissionTracking.Json.Writer
import MissionTracking.Proofs.Text.Digits

/-!
Tokens read back. Each token of a written text is read as itself and leaves what follows; only after
a number must that not go on with a character of a number, and what the writer puts behind a value
is a comma or closes a container.
-/
namespace MissionTracking.Json
open Text

theorem hexNumber?_control : ∀ n < 32, ['0', '0', hexDigit (n / 16), hexDigit (n % 16)].foldlM
    (fun n c => (hexValue? c).map (n * 16 + ·)) 0 = some n := by
  decide +kernel

theorem escaped?_control {c : Char} (control : c.toNat < 0x20) (rest : List Char) :
    escaped? ('u' :: '0' :: '0' :: hexDigit (c.toNat / 16) :: hexDigit (c.toNat % 16) :: rest) =
      some (some c, 5) := by
  have value :
      hexNumber? 4 ('0' :: '0' :: hexDigit (c.toNat / 16) :: hexDigit (c.toNat % 16) :: rest) =
      some c.toNat := hexNumber?_control c.toNat control
  have low : c.toNat < 0xD800 := by omega
  simp [escaped?, escapedUnit?, value, low]

theorem stringBody?_escape (c : Char) (rest : List Char) :
    stringBody? 0 (escape c ++ rest) =
    (stringBody? 0 rest).map fun body => (consUnit (some c) body.1, body.2) := by
  unfold escape
  split
  case h_8 quote backslash _ _ _ _ _ =>
    split
    · rename_i control
      simp [stringBody?, escaped?_control control]
    · rename_i visible
      rw [List.singleton_append, stringBody?, if_neg visible]
      · exact quote
      · exact backslash
  all_goals simp [stringBody?, escaped?]

theorem stringBody?_text (cs rest : List Char) :
    stringBody? 0 (cs.flatMap escape ++ '"' :: rest) = some (some cs, rest) := by
  induction cs with
  | nil => rfl
  | cons c cs ih => simp [stringBody?_escape, ih, consUnit]

theorem isNumberChar_of_isDigit {c : Char} (digit : c.isDigit = true) : isNumberChar c = true := by
  simp [isNumberChar, digit]

theorem isWholePart_digits (n : Nat) : isWholePart (digits n) = true := by
  rcases Nat.eq_zero_or_pos n with rfl | positive
  · decide
  · have head := head?_digits (Nat.ne_of_gt positive)
    have all : (digits n).all Char.isDigit = true :=
      List.all_eq_true.mpr fun c member => isDigit_of_mem_digits member
    simp [isWholePart, digits_ne_nil, head, all]

theorem head?_digits_ne {n : Nat} {c : Char} (other : c.isDigit = false) :
    (digits n).head? ≠ some c := by
  intro head
  have digit := isDigit_of_mem_digits (List.mem_of_mem_head? head)
  rw [other] at digit
  cases digit

theorem number?_int (n : Int) : number? (scalarText (.int n)) = some (.int n) := by
  have all (n : Nat) : ∀ c ∈ digits n, c.isDigit = true :=
    fun c member => isDigit_of_mem_digits member
  have whole (n : Nat) : (digits n).takeWhile Char.isDigit = digits n := by
    simpa using stops_nil.takeWhile_append (all n)
  have nothing (n : Nat) : (digits n).dropWhile Char.isDigit = [] := by
    simpa using stops_nil.dropWhile_append (all n)
  cases n with
  | ofNat n =>
    have plain : ((digits n).head? == some '-') = false :=
      beq_eq_false_iff_ne.mpr (head?_digits_ne rfl)
    simp [number?, scalarText, plain, whole, nothing, isWholePart_digits, isFraction, isExponent]
  | negSucc n =>
    have nonzero : digits (n + 1) ≠ ['0'] := by
      intro zero
      exact head?_digits (Nat.succ_ne_zero n) (by rw [zero]; rfl)
    simp [number?, scalarText, whole, nothing, isWholePart_digits, isFraction, isExponent, nonzero,
      Int.negSucc_eq]

theorem isNumberChar_of_mem_scalarText {n : Int} {c : Char} (member : c ∈ scalarText (.int n)) :
    isNumberChar c = true := by
  cases n with
  | ofNat n => exact isNumberChar_of_isDigit (isDigit_of_mem_digits member)
  | negSucc n =>
    rcases List.mem_cons.mp member with rfl | digit
    · decide
    · exact isNumberChar_of_isDigit (isDigit_of_mem_digits digit)

theorem scalarText_int_ne_nil (n : Int) : scalarText (.int n) ≠ [] := by
  cases n with
  | ofNat n => exact digits_ne_nil n
  | negSucc n => exact List.cons_ne_nil _ _

theorem token?_number {c : Char} (number : isNumberChar c = true) (cs : List Char) :
    token? (c :: cs) = (number? (c :: cs.takeWhile isNumberChar)).map fun n =>
      (.scalar n, cs.dropWhile isNumberChar) := by
  unfold token?
  split
  case h_11 same =>
    cases same
    rw [if_pos number]
  case h_12 same => cases same
  all_goals
    rename_i same
    cases same
    cases number

/-- Everything but numbers with a fraction or an exponent, and strings without content. -/
def Token.Plain : Token → Prop
  | .unpaired => False
  | .scalar .null => True
  | .scalar (.bool _) => True
  | .scalar (.int _) => True
  | .scalar _ => False
  | _ => True

def Token.isScalar : Token → Bool
  | .scalar _ => true
  | _ => false

theorem token?_text {t : Token} {rest : List Char} (plain : t.Plain)
    (stops : t.isScalar = true → Stops isNumberChar rest) :
    token? (t.text ++ rest) = some (t, rest) := by
  cases t with
  | string s =>
    simp [Token.text, token?, stringBody?_text, stringToken]
  | unpaired => cases plain
  | scalar j =>
    cases j with
    | null => rfl
    | bool b => cases b <;> rfl
    | int n =>
      obtain ⟨c, cs, shape⟩ := List.exists_cons_of_ne_nil (scalarText_int_ne_nil n)
      have all : ∀ c ∈ scalarText (.int n), isNumberChar c = true := fun c member =>
        isNumberChar_of_mem_scalarText member
      have read := number?_int n
      rw [shape] at all read
      have number := all c List.mem_cons_self
      have others : ∀ c ∈ cs, isNumberChar c = true :=
        fun c member => all c (List.mem_cons_of_mem _ member)
      have ends := stops rfl
      rw [Token.text, shape, List.cons_append, token?_number number, ends.takeWhile_append others,
        ends.dropWhile_append others, read, Option.map_some]
    | real | string | array | object | unpaired => cases plain
  | openObject | closeObject | openArray | closeArray | colon | comma => rfl

theorem exists_text {t : Token} (plain : t.Plain) :
    ∃ c cs, t.text = c :: cs ∧ isSpace c = false := by
  cases t with
  | scalar j =>
    cases j with
    | null => exact ⟨'n', _, rfl, rfl⟩
    | bool b =>
      cases b
      · exact ⟨'f', _, rfl, rfl⟩
      · exact ⟨'t', _, rfl, rfl⟩
    | int n =>
      obtain ⟨c, cs, shape⟩ := List.exists_cons_of_ne_nil (scalarText_int_ne_nil n)
      have number := isNumberChar_of_mem_scalarText (shape ▸ List.mem_cons_self)
      refine ⟨c, cs, shape, ?_⟩
      by_cases space : isSpace c = true
      · simp only [isSpace, Bool.or_eq_true, decide_eq_true_eq] at space
        obtain ((rfl | rfl) | rfl) | rfl := space <;> cases number
      · exact Bool.eq_false_iff.mpr space
    | real | string | array | object | unpaired => cases plain
  | unpaired => cases plain
  | string | openObject | closeObject | openArray | closeArray | colon | comma =>
    exact ⟨_, _, rfl, rfl⟩

/-- The first token of a text, and then the others. -/
theorem tokens?_text {t : Token} {rest : List Char} (plain : t.Plain)
    (stops : t.isScalar = true → Stops isNumberChar rest) :
    tokens? (t.text ++ rest) = (tokens? rest).map (t :: ·) := by
  have read := token?_text plain stops
  obtain ⟨c, cs, shape, visible⟩ := exists_text plain
  rw [shape, List.cons_append] at read ⊢
  have front : (c :: (cs ++ rest)).dropWhile isSpace = c :: (cs ++ rest) := by simp [visible]
  rw [tokens?]
  split
  · rename_i same
    rw [front] at same
    cases same
  · rename_i same
    rw [front] at same
    cases same
    split
    · rename_i other
      rw [read] at other
      cases other
      rfl
    · rename_i other
      rw [read] at other
      cases other

end MissionTracking.Json
