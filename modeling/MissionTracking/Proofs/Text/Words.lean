import MissionTracking.Proofs.Text.Comparison
import Mathlib.Data.List.Basic

/-!
Texts taken apart: the pieces between commas, the first word of a piece and all of its words. Pieces
and first words are said of the text that is put together again.
-/
namespace MissionTracking.Text

/-- The pieces of a text between its commas. -/
structure CommaPieces (pieces : List (List Char)) (text : String) : Prop where
  nonempty : pieces ≠ []
  whole : text.toList = [','].intercalate pieces
  apart : ∀ piece ∈ pieces, ',' ∉ piece

/-- What stands between the white space at the beginning and the white space that follows, or the
end. -/
structure FirstWord (word piece : List Char) : Prop where
  nonempty : word ≠ []
  visible : ∀ c ∈ word, isBlank c = false
  within : ∃ front rest, piece = front ++ word ++ rest ∧ (∀ c ∈ front, isBlank c = true) ∧
    ∀ c ∈ rest.head?, isBlank c = true

variable {word rest piece : List Char} {pieces : List (List Char)} {text : String}

theorem notMem_of_mem_splitOnP {p : Char → Bool} {cs : List Char} :
    ∀ piece ∈ cs.splitOnP p, ∀ c ∈ piece, p c = false := by
  induction cs with
  | nil => simp
  | cons c cs ih =>
    rw [List.splitOnP_cons_eq_if_modifyHead]
    split
    · exact List.forall_mem_cons.mpr ⟨nofun, ih⟩
    · rename_i other
      obtain ⟨first, later, pieces⟩ := List.exists_cons_of_ne_nil (List.splitOnP_ne_nil p cs)
      rw [pieces] at ih ⊢
      obtain ⟨head, tail⟩ := List.forall_mem_cons.mp ih
      exact List.forall_mem_cons.mpr ⟨List.forall_mem_cons.mpr ⟨Bool.eq_false_iff.mpr other, head⟩,
        tail⟩

theorem commaPieces_splitOn (text : String) : CommaPieces (text.toList.splitOn ',') text where
  nonempty := List.splitOn_ne_nil ',' text.toList
  whole := (List.intercalate_splitOn ',').symm
  apart piece member comma := by
    have other := notMem_of_mem_splitOnP piece member ',' comma
    cases other

theorem splitOn_of_commaPieces (split : CommaPieces pieces text) :
    text.toList.splitOn ',' = pieces := by
  rw [split.whole, List.splitOn_intercalate ',' split.apart split.nonempty]

theorem trim_of_blank (blank : ∀ c ∈ piece, isBlank c = true) : trim piece = [] := by
  have nothing : dropBlanks piece = [] := List.dropWhile_eq_nil_iff.mpr blank
  rw [trim, nothing]
  rfl

theorem trim_eq_nil_iff : trim piece = [] ↔ ∀ c ∈ piece, isBlank c = true := by
  refine ⟨fun nothing => ?_, trim_of_blank⟩
  obtain ⟨⟨front, back, split, before, after⟩, _, _⟩ := isCore_trim piece
  rw [nothing, List.append_nil] at split
  rw [split]
  exact List.forall_mem_append.mpr ⟨before, after⟩

theorem firstWord_append (visible : ∀ c ∈ word, isBlank c = false)
    (ends : ∀ c ∈ rest.head?, isBlank c = true) : firstWord (word ++ rest) = word := by
  have inside : ∀ c ∈ word, (!isBlank c) = true := by simpa using visible
  have stopped : rest.takeWhile (fun c => !isBlank c) = [] := by
    cases rest with
    | nil => rfl
    | cons c cs => simp [ends c rfl]
  rw [firstWord, List.takeWhile_append_of_pos inside, stopped, List.append_nil]

theorem firstWord_ends (core : List Char) {back : List Char}
    (after : ∀ c ∈ back, isBlank c = true) :
    ∀ c ∈ (core.dropWhile (fun c => !isBlank c) ++ back).head?, isBlank c = true := by
  intro c first
  have stopped := List.head?_dropWhile_not (fun c => !isBlank c) core
  cases left : core.dropWhile (fun c => !isBlank c) with
  | nil =>
    rw [left, List.nil_append] at first
    exact after c (List.mem_of_mem_head? first)
  | cons d ds =>
    rw [left, List.cons_append, List.head?_cons, Option.mem_def, Option.some.injEq] at first
    simpa [left, first] using stopped

theorem firstWord_visible (core : List Char) : ∀ c ∈ firstWord core, isBlank c = false := by
  intro c member
  simpa using List.mem_takeWhile_imp member

theorem firstWord_iff : FirstWord word piece ↔ trim piece ≠ [] ∧ word = firstWord (trim piece) := by
  obtain ⟨⟨front, back, split, before, after⟩, first, _⟩ := isCore_trim piece
  generalize trim piece = core at *
  have parts : core = firstWord core ++ core.dropWhile fun c => !isBlank c :=
    List.takeWhile_append_dropWhile.symm
  constructor
  · rintro ⟨nonempty, visible, front', rest, split', before', ends⟩
    have left : dropBlanks piece = word ++ rest := by
      rw [split', List.append_assoc, dropBlanks_append_of_blank before']
      apply dropBlanks_of_head?
      obtain ⟨c, cs, rfl⟩ := List.exists_cons_of_ne_nil nonempty
      simpa using visible c List.mem_cons_self
    have left' : dropBlanks piece = dropBlanks (core ++ back) := by
      rw [split, List.append_assoc, dropBlanks_append_of_blank before]
    have visible_core : core ≠ [] := by
      intro empty
      have nothing : dropBlanks back = [] := List.dropWhile_eq_nil_iff.mpr after
      rw [left, empty, List.nil_append, nothing] at left'
      exact nonempty (List.append_eq_nil_iff.mp left').1
    have kept : dropBlanks (core ++ back) = core ++ back := by
      apply dropBlanks_of_head?
      rwa [List.head?_append_of_ne_nil _ visible_core]
    refine ⟨visible_core, ?_⟩
    calc word = firstWord (word ++ rest) := (firstWord_append visible ends).symm
      _ = firstWord (core ++ back) := by rw [← left, left', kept]
      _ = firstWord (firstWord core ++ (core.dropWhile (fun c => !isBlank c) ++ back)) := by
        rw [← List.append_assoc, ← parts]
      _ = firstWord core := firstWord_append (firstWord_visible core) (firstWord_ends core after)
  · rintro ⟨visible_core, rfl⟩
    refine ⟨?_, firstWord_visible core, front,
      core.dropWhile (fun c => !isBlank c) ++ back, ?_, before, firstWord_ends core after⟩
    · obtain ⟨c, cs, rfl⟩ := List.exists_cons_of_ne_nil visible_core
      have visible := first c rfl
      simp [firstWord, visible]
    · rw [List.append_assoc, ← List.append_assoc _ _ back, ← parts, ← List.append_assoc]
      exact split

def words (cs : List Char) : List (List Char) := (cs.splitOnP isBlank).filter (!·.isEmpty)

theorem words_append_cons {c : Char} (blank : isBlank c = true) (cs ds : List Char) :
    words (cs ++ c :: ds) = words cs ++ words ds := by
  rw [words, List.splitOnP_append_cons cs ds blank, List.filter_append, words, words]

theorem words_of_visible (nonempty : word ≠ []) (visible : ∀ c ∈ word, isBlank c = false) :
    words word = [word] := by
  simp [words, List.splitOnP_eq_singleton visible, nonempty]

theorem words_append_of_blank {front : List Char} (blank : ∀ c ∈ front, isBlank c = true)
    (rest : List Char) : words (front ++ rest) = words rest := by
  induction front with
  | nil => rfl
  | cons c cs ih =>
    obtain ⟨first, later⟩ := List.forall_mem_cons.mp blank
    exact (words_append_cons first [] (cs ++ rest)).trans (ih later)

theorem words_of_blank (blank : ∀ c ∈ piece, isBlank c = true) : words piece = [] := by
  have alone : words (piece ++ []) = [] := words_append_of_blank blank []
  rwa [List.append_nil] at alone

theorem words_append_of_head? (ends : ∀ c ∈ rest.head?, isBlank c = true) (cs : List Char) :
    words (cs ++ rest) = words cs ++ words rest := by
  cases rest with
  | nil =>
    have wordless : words [] = [] := rfl
    rw [List.append_nil, wordless, List.append_nil]
  | cons c ds =>
    have blank := ends c rfl
    have skipped : words (c :: ds) = words ds := words_append_cons blank [] ds
    rw [words_append_cons blank, skipped]

theorem words_eq_of_isCore {core text : List Char} (isCore : IsCore core text) :
    words text = words core := by
  obtain ⟨⟨front, back, rfl, before, after⟩, _, _⟩ := isCore
  have ends : ∀ c ∈ back.head?, isBlank c = true :=
    fun c first => after c (List.mem_of_mem_head? first)
  rw [List.append_assoc, words_append_of_blank before, words_append_of_head? ends,
    words_of_blank after, List.append_nil]

theorem words_of_firstWord (first : FirstWord word piece) :
    ∃ later, words piece = word :: later := by
  obtain ⟨nonempty, visible, front, rest, rfl, before, ends⟩ := first
  refine ⟨words rest, ?_⟩
  rw [List.append_assoc, words_append_of_blank before, words_append_of_head? ends,
    words_of_visible nonempty visible]
  rfl

theorem words_eq_nil_iff : words piece = [] ↔ ∀ c ∈ piece, isBlank c = true := by
  refine ⟨fun wordless => ?_, words_of_blank⟩
  by_contra visible
  obtain ⟨later, whole⟩ :=
    words_of_firstWord (firstWord_iff.mpr ⟨mt trim_eq_nil_iff.mp visible, rfl⟩)
  rw [wordless] at whole
  cases whole

end MissionTracking.Text
