import MissionTracking.Text.Decimal

/-!
Decimal numbers in a text that goes on. The digits of a number, padded or not, are the longest run
of digits at the beginning of the text when what follows does not begin with another, and their
value is the number.
-/
namespace MissionTracking.Text

/-- The text is at its end, or goes on with a character of another kind. -/
def Stops (kind : Char → Bool) (rest : List Char) : Prop := ∀ c ∈ rest.head?, kind c = false

variable {kind : Char → Bool} {cs rest : List Char}

theorem stops_nil : Stops kind [] := by simp [Stops]

theorem stops_cons {c : Char} (other : kind c = false) : Stops kind (c :: rest) := by
  simpa [Stops] using other

theorem Stops.takeWhile_append (stops : Stops kind rest) (all : ∀ c ∈ cs, kind c = true) :
    (cs ++ rest).takeWhile kind = cs := by
  rw [List.takeWhile_append_of_pos all]
  cases rest with
  | nil => simp
  | cons c rest =>
    have other : kind c = false := stops c rfl
    simp [other]

theorem Stops.dropWhile_append (stops : Stops kind rest) (all : ∀ c ∈ cs, kind c = true) :
    (cs ++ rest).dropWhile kind = rest := by
  rw [List.dropWhile_append_of_pos all]
  cases rest with
  | nil => rfl
  | cons c rest =>
    have other : kind c = false := stops c rfl
    simp [other]

theorem isDigit_of_mem_digits {n : Nat} {c : Char} (member : c ∈ digits n) : c.isDigit = true :=
  Nat.isDigit_of_mem_toDigits (by decide) (by decide) member

theorem digits_ne_nil (n : Nat) : digits n ≠ [] := Nat.toDigits_ne_nil

theorem head?_digits {n : Nat} (positive : n ≠ 0) : (digits n).head? ≠ some '0' := by
  induction n using Nat.strongRecOn with
  | _ n ih =>
    rcases Nat.lt_or_ge n 10 with small | large
    · have one : ∀ n < 10, n ≠ 0 → (Nat.toDigits 10 n).head? ≠ some '0' := by decide
      exact one n small positive
    · have front := ih (n / 10) (by omega) (by omega)
      have parts : digits n = digits (n / 10) ++ [(n % 10).digitChar] :=
        Nat.toDigits_of_base_le (by decide) large
      obtain ⟨d, ds, shape⟩ := List.exists_cons_of_ne_nil (digits_ne_nil (n / 10))
      rw [parts, shape]
      rw [shape] at front
      exact front

theorem isDigit_of_mem_padded {width n : Nat} {c : Char} (member : c ∈ padded width n) :
    c.isDigit = true := by
  rcases List.mem_append.mp member with zero | digit
  · rw [List.eq_of_mem_replicate zero]
    rfl
  · exact isDigit_of_mem_digits digit

theorem padded_ne_nil (width n : Nat) : padded width n ≠ [] := by
  intro empty
  exact digits_ne_nil n (List.append_eq_nil_iff.mp empty).2

@[simp] theorem digitsValue_padded (width n : Nat) : digitsValue (padded width n) = n := by
  rw [digitsValue, padded, Nat.ofDigitChars_append, Nat.ofDigitChars_replicate_zero, Nat.mul_zero]
  exact digitsValue_digits n

theorem length_padded {width n : Nat} (positive : 0 < width) (fits : n < Nat.pow 10 width) :
    (padded width n).length = width := by
  have short : (digits n).length ≤ width :=
    (Nat.length_toDigits_le_iff (by decide) positive).mpr fits
  simp [padded, short]

end MissionTracking.Text
