import MissionTracking.Text.Blank
import MissionTracking.Text.Fold
import Mathlib.Data.List.Forall2
import Mathlib.Data.List.TakeWhile

/-!
Texts compared as people compare them: without the white space around them, and whatever the case of
the letters A to Z. Both are said of the characters themselves, and trimming and folding are what a
program does to find it out.
-/
namespace MissionTracking.Text

/-- What is left of a text without the white space around it. -/
structure IsCore (core text : List Char) : Prop where
  within : ∃ front back, text = front ++ core ++ back ∧ (∀ c ∈ front, isBlank c = true) ∧
      ∀ c ∈ back, isBlank c = true
  first : ∀ c ∈ core.head?, isBlank c = false
  last : ∀ c ∈ core.getLast?, isBlank c = false

/-- One character, or the two cases of one of the letters A to Z. -/
def SameLetter (c d : Char) : Prop :=
  c = d ∨ ∃ n, 0x41 ≤ n ∧ n ≤ 0x5A ∧
  (c.toNat = n ∧ d.toNat = n + 32 ∨ d.toNat = n ∧ c.toNat = n + 32)

def SameText (s t : List Char) : Prop := List.Forall₂ SameLetter s t

/-- The first text stands somewhere in the second, in whatever case. -/
def FoundIn (needle text : List Char) : Prop := ∃ found, found <:+: text ∧ SameText needle found

variable {core text needle : List Char}

theorem head?_dropBlanks (cs : List Char) : ∀ c ∈ (dropBlanks cs).head?, isBlank c = false := by
  intro c first
  have stopped := List.head?_dropWhile_not isBlank cs
  rw [Option.mem_def, dropBlanks] at first
  rwa [first] at stopped

theorem dropBlanks_of_head? (first : ∀ c ∈ core.head?, isBlank c = false) :
    dropBlanks core = core := by
  cases core with
  | nil => rfl
  | cons c cs =>
    have visible : ¬ isBlank c = true := Bool.eq_false_iff.mp (first c rfl)
    exact List.dropWhile_cons_of_neg visible

theorem dropBlanks_append_of_blank {front : List Char} (blank : ∀ c ∈ front, isBlank c = true)
    (rest : List Char) : dropBlanks (front ++ rest) = dropBlanks rest := by
  rw [dropBlanks_append, if_pos (List.all_eq_true.mpr blank)]

theorem isCore_trim (text : List Char) : IsCore (trim text) text := by
  have begins : text = text.takeWhile isBlank ++ dropBlanks text :=
    List.takeWhile_append_dropWhile.symm
  have ends :
      dropBlanks text = trim text ++ ((dropBlanks text).reverse.takeWhile isBlank).reverse := by
    have whole :
        (dropBlanks text).reverse.takeWhile isBlank ++ dropBlanks (dropBlanks text).reverse =
        (dropBlanks text).reverse := List.takeWhile_append_dropWhile
    rw [trim, ← List.reverse_append, whole, List.reverse_reverse]
  constructor
  · refine ⟨text.takeWhile isBlank, ((dropBlanks text).reverse.takeWhile isBlank).reverse, ?_,
      fun c member => List.mem_takeWhile_imp member,
      fun c member => List.mem_takeWhile_imp (List.mem_reverse.mp member)⟩
    rw [List.append_assoc, ← ends]
    exact begins
  · intro c first
    refine head?_dropBlanks text c ?_
    rw [ends, List.head?_append, Option.mem_def.mp first]
    rfl
  · intro c last
    rw [trim, List.getLast?_reverse] at last
    exact head?_dropBlanks _ c last

theorem isCore_iff : IsCore core text ↔ core = trim text := by
  constructor
  · rintro ⟨⟨front, back, rfl, blank, blank'⟩, first, last⟩
    have turned : ∀ c ∈ back.reverse, isBlank c = true := by simpa using blank'
    rw [trim, List.append_assoc, dropBlanks_append_of_blank blank]
    cases core with
    | nil =>
      have nothing : dropBlanks back = [] := List.dropWhile_eq_nil_iff.mpr blank'
      rw [List.nil_append, nothing]
      rfl
    | cons c cs =>
      have kept : dropBlanks (c :: cs ++ back) = c :: cs ++ back := dropBlanks_of_head? first
      have kept' : dropBlanks (c :: cs).reverse = (c :: cs).reverse := by
        apply dropBlanks_of_head?
        rwa [List.head?_reverse]
      rw [kept, List.reverse_append, dropBlanks_append_of_blank turned, kept', List.reverse_reverse]
  · rintro rfl
    exact isCore_trim text

theorem toNat_toLower (c : Char) :
    c.toLower.toNat = if 0x41 ≤ c.toNat ∧ c.toNat ≤ 0x5A then c.toNat + 32 else c.toNat := by
  have capital : (c.val ≥ 'A'.val ∧ c.val ≤ 'Z'.val) ↔ 0x41 ≤ c.toNat ∧ c.toNat ≤ 0x5A := Iff.rfl
  unfold Char.toLower
  split
  · rename_i upper
    have bounds := capital.mp upper
    rw [if_pos bounds]
    have sum : (c.val + 32).toNat = c.val.toNat + 32 := by
      rw [UInt32.toNat_add]
      exact Nat.mod_eq_of_lt (by change c.toNat + 32 < _; omega)
    exact sum
  · rename_i other
    rw [if_neg fun bounds => other (capital.mpr bounds)]

theorem toLower_eq_iff {c d : Char} : c.toLower = d.toLower ↔ SameLetter c d := by
  rw [← Char.toNat_inj, toNat_toLower, toNat_toLower, SameLetter, ← Char.toNat_inj]
  constructor
  · intro same
    split at same <;> split at same
    · exact .inl (by omega)
    · exact .inr ⟨c.toNat, by omega, by omega, .inl ⟨rfl, same.symm⟩⟩
    · exact .inr ⟨d.toNat, by omega, by omega, .inr ⟨rfl, same⟩⟩
    · exact .inl same
  · rintro (same | ⟨n, above, below, ⟨hc, hd⟩ | ⟨hd, hc⟩⟩)
    · rw [same]
    · rw [if_pos (by omega), if_neg (by omega)]
      omega
    · rw [if_neg (by omega), if_pos (by omega)]
      omega

theorem map_toLower_eq_iff {s t : List Char} :
    s.map Char.toLower = t.map Char.toLower ↔ SameText s t := by
  simp only [← List.forall₂_eq_eq_eq, List.forall₂_map_left_iff, List.forall₂_map_right_iff,
    toLower_eq_iff, SameText]

theorem foldCase_eq_iff {s t : String} : foldCase s = foldCase t ↔ SameText s.toList t.toList := by
  rw [foldCase, foldCase, String.ofList_inj, map_toLower_eq_iff]

theorem contains_foldCase {text needle : String} :
    contains (foldCase text) (foldCase needle) = true ↔ FoundIn needle.toList text.toList := by
  simp only [contains, occursIn_iff, foldCase, String.toList_ofList, List.infix_map_iff,
    map_toLower_eq_iff, FoundIn]

end MissionTracking.Text
