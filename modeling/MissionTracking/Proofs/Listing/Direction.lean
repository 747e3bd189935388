import MissionTracking.Proofs.Refusal
import MissionTracking.Proofs.Listing.OrderBy

/-!
Directions in orders as text. The field of a key is named by the first word of a piece, and its
direction is read from the end of the piece: descending for `desc` after a plain space. The two
readings are of one piece, but neither looks at what stands between them, so that an order is read
although its pieces have more words than a name and a `desc`, and a `desc` after other white space
goes unseen.
-/
namespace MissionTracking
open Text

/-- The piece ends, but for white space, in a plain space and `desc` in any case. -/
def EndsInDesc (piece : List Char) : Prop :=
  ∃ core mark, IsCore core piece ∧ mark <:+ core ∧ SameText mark [' ', 'd', 'e', 's', 'c']

/-- The first word of the piece names the field of the key, and the end of the piece gives the
direction. -/
structure SortKey.ReadFrom (k : SortKey) (piece : List Char) : Prop where
  named : ∃ word, FirstWord word piece ∧ Spells k.field.text.toList word
  marked : k.direction = .descending ↔ EndsInDesc piece

/-- The documented form of a key, `<field>[ desc]`: the words of the piece are the name of the field
alone, or the name and `desc` in any case. -/
inductive SortKey.Documented : SortKey → List Char → Prop where
  | ascending {f : SortField} {piece name : List Char} (alone : words piece = [name])
      (spells : Spells f.text.toList name) : Documented ⟨f, .ascending⟩ piece
  | descending {f : SortField} {piece name desc : List Char} (both : words piece = [name, desc])
      (spells : Spells f.text.toList name) (marked : SameText desc ['d', 'e', 's', 'c']) :
      Documented ⟨f, .descending⟩ piece

def wordedPieces (text : String) : List (List Char) :=
  (text.toList.splitOn ',').filter fun piece => !(words piece).isEmpty

variable {piece word : List Char} {k : SortKey} {text : String} {spec : SortSpec}

section Members

variable {α β ε : Type} {as : List α} {bs : List β}

theorem forall₂_iff_forall_mem {R S : β → α → Prop} {P : α → Prop} (related : List.Forall₂ R bs as)
    (each : ∀ b a, R b a → (S b a ↔ P a)) : List.Forall₂ S bs as ↔ ∀ a ∈ as, P a := by
  induction related with
  | nil => exact ⟨nofun, fun _ => .nil⟩
  | cons first _ ih => rw [List.forall₂_cons, List.forall_mem_cons, each _ _ first, ih]

end Members

theorem isLowerAlone_of_mem_desc : ∀ x ∈ [' ', 'd', 'e', 's', 'c'], IsLowerAlone x := by
  refine List.forall_mem_cons.mpr ⟨isLowerAlone_space, fun x member => ?_⟩
  have each : ∀ x ∈ ['d', 'e', 's', 'c'], IsLetter x ∧ x.toLower = x ∧ x ≠ 'k' :=
    forall_mem_of_all (by decide)
  obtain ⟨letter, lowered, other⟩ := each x member
  exact isLowerAlone_letter letter lowered other

theorem directionOf_trim : SortSpec.directionOf (trim piece) = .descending ↔ EndsInDesc piece := by
  have ends :
      EndsInDesc piece ↔ [' ', 'd', 'e', 's', 'c'].isSuffixOf (lower (trim piece)) = true := by
    rw [List.isSuffixOf_iff_suffix, lower, suffix_lowerAfter_iff isLowerAlone_of_mem_desc]
    simp only [EndsInDesc, isCore_iff, exists_and_left, exists_eq_left]
  rw [ends, SortSpec.directionOf]
  split
  · rename_i suffix
    exact ⟨fun _ => suffix, fun _ => rfl⟩
  · rename_i other
    exact ⟨nofun, fun suffix => absurd suffix other⟩

theorem words_of_endsInDesc (ends : EndsInDesc piece) :
    ∃ others desc, others ≠ [] ∧ words piece = others ++ [desc] ∧
    SameText desc ['d', 'e', 's', 'c'] := by
  obtain ⟨core, mark, isCore, ⟨front, rfl⟩, same⟩ := ends
  obtain ⟨space, desc, first, marked, rfl⟩ := List.forall₂_cons_right_iff.mp same
  obtain rfl := (sameLetter_iff_eq (by decide)).mp first
  have visible : ∀ c ∈ desc, isBlank c = false :=
    fun c member => isBlank_of_nameChar (desc_nameChars marked c member)
  have nonempty : desc ≠ [] := by
    rintro rfl
    cases marked
  refine ⟨words front, desc, ?_, ?_, marked⟩
  · intro wordless
    have blank := words_eq_nil_iff.mp wordless
    cases front with
    | nil => exact absurd (isCore.first ' ' rfl) (by decide)
    | cons c cs =>
      exact absurd (isCore.first c rfl) (Bool.not_eq_false _ ▸ blank c List.mem_cons_self)
  · rw [words_eq_of_isCore isCore, words_append_cons (by decide), words_of_visible nonempty visible]

theorem SortDirection.eq_iff {d e : SortDirection} :
    d = e ↔ (d = .descending ↔ e = .descending) := by
  cases d <;> cases e <;> decide

theorem keyOf_eq_ok_iff (something : words piece ≠ []) :
    SortSpec.keyOf (trim piece) = .ok k ↔ k.ReadFrom piece := by
  have visible : trim piece ≠ [] :=
    fun nothing => something (words_eq_nil_iff.mpr (trim_eq_nil_iff.mp nothing))
  have read : k.ReadFrom piece ↔ SortField.lookup? (firstWord (trim piece)) = some k.field ∧
      k.direction = SortSpec.directionOf (trim piece) := by
    rw [SortDirection.eq_iff, directionOf_trim, SortField.lookup?_eq_some_iff]
    constructor
    · rintro ⟨⟨word, first, spells⟩, marked⟩
      exact ⟨(firstWord_iff.mp first).2 ▸ spells, marked⟩
    · rintro ⟨spells, marked⟩
      exact ⟨⟨_, firstWord_iff.mpr ⟨visible, rfl⟩, spells⟩, marked⟩
  rw [read, SortSpec.keyOf]
  obtain ⟨f, d⟩ := k
  cases found : SortField.lookup? (firstWord (trim piece)) with
  | none => simp only [reduceCtorEq, false_and]
  | some g => simp only [Except.ok.injEq, SortKey.mk.injEq, Option.some.injEq, eq_comm]

theorem parse_eq_ok_iff : SortSpec.parse (some text) = .ok spec ↔
    ∃ keys, List.Forall₂ SortKey.ReadFrom keys (wordedPieces text) ∧
    spec = SortSpec.ofKeys keys := by
  have tokens : SortSpec.tokensOf text.toList = (wordedPieces text).map trim := by
    have kept (piece : List Char) : (!(trim piece).isEmpty) = !(words piece).isEmpty := by
      rw [Bool.not_inj_iff, Bool.eq_iff_iff, List.isEmpty_iff, List.isEmpty_iff, trim_eq_nil_iff,
        words_eq_nil_iff]
    rw [SortSpec.tokensOf, wordedPieces, List.filter_map]
    simp only [Function.comp_def, kept]
  have read (keys : List SortKey) : (SortSpec.tokensOf text.toList).mapM SortSpec.keyOf = .ok keys ↔
      List.Forall₂ SortKey.ReadFrom keys (wordedPieces text) := by
    rw [tokens, List.mapM_map]
    refine mapM_ok_iff fun piece member k => keyOf_eq_ok_iff ?_
    simpa using (List.mem_filter.mp member).2
  rw [SortSpec.parse, map_ok_iff]
  exact exists_congr fun keys => and_congr (read keys) eq_comm

theorem documented_iff (read : k.ReadFrom piece) :
    k.Documented piece ↔
    (words piece).length = 1 ∨ (words piece).length = 2 ∧ EndsInDesc piece := by
  obtain ⟨⟨word, first, spells⟩, marked⟩ := read
  obtain ⟨later, whole⟩ := words_of_firstWord first
  constructor
  · intro documented
    cases documented with
    | ascending alone _ => exact .inl (congrArg List.length alone)
    | descending both _ _ => exact .inr ⟨congrArg List.length both, marked.mp rfl⟩
  · obtain ⟨f, d⟩ := k
    rintro (one | ⟨two, ends⟩)
    · have plain : d = .ascending := by
        cases d with
        | ascending => rfl
        | descending =>
          obtain ⟨others, desc, several, split, _⟩ := words_of_endsInDesc (marked.mp rfl)
          rw [split, List.length_append, List.length_singleton] at one
          exact absurd (List.length_eq_zero_iff.mp (by omega)) several
      obtain rfl : later = [] := by simpa [whole] using one
      subst plain
      exact .ascending whole spells
    · obtain rfl : d = .descending := marked.mpr ends
      obtain ⟨others, desc, _, split, same⟩ := words_of_endsInDesc ends
      rw [whole] at split two
      obtain ⟨last, rfl⟩ : ∃ last, later = [last] := List.length_eq_one_iff.mp (by simpa using two)
      have ends_alike : [word] ++ [last] = others ++ [desc] := split
      obtain rfl := List.singleton_inj.mp (List.append_inj' ends_alike rfl).2
      exact .descending whole spells same

theorem ofKeys_injective {keys keys' : List SortKey} (lengths : keys.length = keys'.length)
    (same : SortSpec.ofKeys keys = SortSpec.ofKeys keys') : keys = keys' := by
  cases keys with
  | nil => exact (List.length_eq_zero_iff.mp lengths.symm).symm
  | cons k ks =>
    cases keys' with
    | nil => cases lengths
    | cons k' ks' => exact congrArg SortSpec.keys same

/-- An order is read exactly when the first word of every piece names a field, and the direction of
a key is descending exactly when its piece ends in a plain space and `desc`. All keys of an order
that is read are those of its documented form exactly when each piece is one word, or two words of
which the second is a `desc` after a plain space. -/
theorem orderBy_direction (text : String) :
    (∀ spec, SortSpec.parse (some text) = .ok spec ↔
      ∃ keys, List.Forall₂ SortKey.ReadFrom keys (wordedPieces text) ∧
      spec = SortSpec.ofKeys keys) ∧
    ((∃ keys, List.Forall₂ SortKey.Documented keys (wordedPieces text) ∧
        SortSpec.parse (some text) = .ok (SortSpec.ofKeys keys)) ↔
      (∃ spec, SortSpec.parse (some text) = .ok spec) ∧
        ∀ piece ∈ wordedPieces text, (words piece).length = 1 ∨ (words piece).length = 2 ∧
        EndsInDesc piece) := by
  refine ⟨fun _ => parse_eq_ok_iff, ?_⟩
  constructor
  · rintro ⟨keys, documented, parsed⟩
    obtain ⟨keys', read, same⟩ := parse_eq_ok_iff.mp parsed
    have lengths : keys.length = keys'.length := documented.length_eq.trans read.length_eq.symm
    obtain rfl := ofKeys_injective lengths same
    exact ⟨⟨_, parsed⟩, (forall₂_iff_forall_mem read fun _ _ => documented_iff).mp documented⟩
  · rintro ⟨⟨spec, parsed⟩, plain⟩
    obtain ⟨keys, read, rfl⟩ := parse_eq_ok_iff.mp parsed
    exact ⟨keys, (forall₂_iff_forall_mem read fun _ _ => documented_iff).mpr plain, parsed⟩

/-- Words before a `desc` at the end pass unseen. -/
example : SortSpec.parse (some "name asc desc") = .ok ⟨[⟨.name, .descending⟩]⟩ := by decide

/-- The `desc` after a tab is a word of its own, but the order is read as ascending. -/
theorem orderBy_direction_tab : ¬ ∀ text spec, SortSpec.parse (some text) = .ok spec →
    ∃ keys, List.Forall₂ SortKey.Documented keys (wordedPieces text) ∧
    spec = SortSpec.ofKeys keys := by
  intro always
  have parsed : SortSpec.parse (some "name\tdesc") = .ok ⟨[⟨.name, .ascending⟩]⟩ := by decide
  have pieces : wordedPieces "name\tdesc" = ["name\tdesc".toList] := by decide
  have both : words "name\tdesc".toList = ["name".toList, "desc".toList] := by decide
  obtain ⟨keys, documented, same⟩ := always _ _ parsed
  rw [pieces, List.forall₂_cons_right_iff] at documented
  obtain ⟨k, ks, first, rest, rfl⟩ := documented
  obtain rfl := List.forall₂_nil_right_iff.mp rest
  cases first with
  | ascending alone _ =>
    rw [both] at alone
    cases alone
  | descending => cases same

end MissionTracking
