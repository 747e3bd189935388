import MissionTracking.Proofs.Text.Lower
import MissionTracking.Proofs.Text.Words
import MissionTracking.Query.OrderBy

/-!
Orders as text. Whatever way an order is written, it is read as the keys that were written, and a
text is refused for the first of its words that should name a field and does not.
-/
namespace MissionTracking
open Text

/-- A name in letters of either case, with underscores anywhere. -/
inductive Spells : List Char → List Char → Prop where
  | nil : Spells [] []
  | underscore {name word : List Char} (rest : Spells name word) : Spells name ('_' :: word)
  | letter {c d : Char} {name word : List Char} (same : SameLetter c d) (rest : Spells name word) :
      Spells (c :: name) (d :: word)

inductive SortKey.Written : SortKey → List Char → Prop where
  | ascending {f : SortField} {word : List Char}
      (spells : Spells f.text.toList word) : Written ⟨f, .ascending⟩ word
  | descending {f : SortField} {word desc : List Char} (spells : Spells f.text.toList word)
      (spaces : Nat)
      (marked : SameText desc ['d', 'e', 's', 'c']) :
      Written ⟨f, .descending⟩ (word ++ List.replicate (spaces + 1) ' ' ++ desc)

/-- What is written between commas for a list of keys: the keys in order with white space around
them, and white space alone anywhere. -/
inductive OrderPieces : List SortKey → List (List Char) → Prop where
  | nil : OrderPieces [] []
  | blank {keys : List SortKey} {piece : List Char} {pieces : List (List Char)}
      (blank : ∀ c ∈ piece, isBlank c = true)
      (rest : OrderPieces keys pieces) : OrderPieces keys (piece :: pieces)
  | key {k : SortKey} {token : List Char} {keys : List SortKey} {pieces : List (List Char)}
      (front back : List Char)
      (before : ∀ c ∈ front, isBlank c = true) (written : k.Written token)
      (after : ∀ c ∈ back, isBlank c = true) (rest : OrderPieces keys pieces) :
      OrderPieces (k :: keys) ((front ++ token ++ back) :: pieces)

def NamesField (word : List Char) : Prop := ∃ f : SortField, Spells f.text.toList word

/-- The piece begins with the word, where the name of a field should stand. -/
def Misnamed (word piece : List Char) : Prop := FirstWord word piece ∧ ¬ NamesField word

variable {name word token piece : List Char} {f g : SortField} {k : SortKey}

/-- The letters of the names, which no other characters share their lower case with. -/
def IsNameLetter (c : Char) : Prop := IsLetter c ∧ c.toLower ≠ 'k'

instance (c : Char) : Decidable (IsNameLetter c) := inferInstanceAs (Decidable (_ ∧ _))

-- Characters are finitely many, so that a decision over all of them may be tried instead of one
-- over the list.
theorem forall_mem_of_all {p : Char → Prop} [DecidablePred p] {cs : List Char}
    (all : cs.all (fun c => decide (p c)) = true) : ∀ c ∈ cs, p c := by
  simpa only [List.all_eq_true, decide_eq_true_eq] using all

theorem SortField.text_letters (f : SortField) : ∀ c ∈ f.text.toList, IsNameLetter c := by
  apply forall_mem_of_all
  cases f <;> decide

theorem spells_cons_iff {d : Char} (plain : d ≠ '_') :
    Spells name (d :: word) ↔ ∃ c rest, name = c :: rest ∧ SameLetter c d ∧ Spells rest word := by
  constructor
  · intro spells
    cases spells with
    | underscore => exact absurd rfl plain
    | letter same rest => exact ⟨_, _, rfl, same, rest⟩
  · rintro ⟨c, rest, rfl, same, spells⟩
    exact .letter same spells

theorem spells_underscore_iff (letters : ∀ c ∈ name, IsNameLetter c) :
    Spells name ('_' :: word) ↔ Spells name word := by
  constructor
  · intro spells
    cases spells with
    | underscore rest => exact rest
    | letter same _ =>
      obtain rfl := (sameLetter_iff_eq (by decide)).mp same
      exact absurd (letters '_' List.mem_cons_self).1 (by decide)
  · exact .underscore

theorem spelling_eq_iff (letters : ∀ c ∈ name, IsNameLetter c) :
    SortField.spelling word = name.map Char.toLower ↔ Spells name word := by
  induction word generalizing name with
  | nil =>
    cases name with
    | nil => exact ⟨fun _ => .nil, fun _ => rfl⟩
    | cons c name =>
      constructor
      · nofun
      · nofun
  | cons d word ih =>
    by_cases underscore : d = '_'
    · subst underscore
      have skipped : SortField.spelling ('_' :: word) = SortField.spelling word := by
        simp [SortField.spelling]
      rw [skipped, spells_underscore_iff letters, ih letters]
    · have first : SortField.spelling (d :: word) = lowerChar d ++ SortField.spelling word := by
        simp [SortField.spelling, underscore]
      rw [first, spells_cons_iff underscore]
      cases name with
      | nil =>
        constructor
        · intro empty
          exact absurd (List.append_eq_nil_iff.mp empty).1 (lowerChar_ne_nil d)
        · rintro ⟨_, _, ⟨⟩, _⟩
      | cons c name =>
        obtain ⟨letter, letters⟩ := List.forall_mem_cons.mp letters
        have ascii : ∀ x ∈ name.map Char.toLower, x.toNat < 128 := by
          intro x member
          obtain ⟨y, member', rfl⟩ := List.mem_map.mp member
          have small := toNat_toLower_of_letter (letters y member').1
          omega
        rw [List.map_cons, lowerChar_append_eq_cons_iff letter.1 letter.2 ascii, ih letters]
        simp

namespace SortField

theorem lower_text (f : SortField) : lower f.text.toList = f.text.toList.map Char.toLower := by
  apply lower_of_ascii
  intro c member
  rcases (f.text_letters c member).1 with capital | small <;> omega

theorem text_injective_of_lower :
    ∀ f ∈ all, ∀ g ∈ all,
    f.text.toList.map Char.toLower = g.text.toList.map Char.toLower → f = g := by
  decide

theorem mem_all (f : SortField) : f ∈ all := by
  cases f <;> decide

theorem eq_of_spells (first : Spells f.text.toList word)
    (second : Spells g.text.toList word) : f = g := by
  rw [← spelling_eq_iff (text_letters _)] at first second
  exact text_injective_of_lower f f.mem_all g g.mem_all (first.symm.trans second)

theorem lookup?_eq_some_iff : lookup? word = some f ↔ Spells f.text.toList word := by
  have names (g : SortField) :
      (lower g.text.toList == spelling word) = true ↔ Spells g.text.toList word := by
    rw [beq_iff_eq, lower_text, eq_comm, spelling_eq_iff g.text_letters]
  have spells_of_found (g : SortField) (found : lookup? word = some g) :
      Spells g.text.toList word := by
    have matched := List.find?_some found
    exact (names g).mp matched
  constructor
  · exact spells_of_found f
  · intro spells
    cases found : lookup? word with
    | none => exact absurd ((names f).mpr spells) (List.find?_eq_none.mp found f f.mem_all)
    | some g => rw [eq_of_spells (spells_of_found g found) spells]

theorem lookup?_eq_none_iff : lookup? word = none ↔ ¬ NamesField word := by
  rw [Option.eq_none_iff_forall_ne_some, NamesField, not_exists]
  exact forall_congr' fun f => not_congr lookup?_eq_some_iff

end SortField

def IsNameChar (c : Char) : Prop := c = '_' ∨ IsLetter c

theorem code_of_nameChar {c : Char} (inside : IsNameChar c) : 0x41 ≤ c.toNat ∧ c.toNat ≤ 0x7A := by
  rcases inside with rfl | capital | small
  · decide
  · omega
  · omega

theorem isBlank_of_nameChar {c : Char} (inside : IsNameChar c) : isBlank c = false := by
  rw [Bool.eq_false_iff]
  intro blank
  obtain ⟨r, member, above, below⟩ := Ranges.covers_iff.mp blank
  have code := code_of_nameChar inside
  have ranges : ∀ r ∈ blankRanges, r.2 < 0x41 ∨ 0x7A < r.1 := by decide
  rcases ranges r member with low | high <;> omega

theorem nameChar_of_sameLetter {c d : Char} (letter : IsLetter c) (same : SameLetter c d) :
    IsNameChar d := by
  refine .inr ?_
  rcases same with rfl | ⟨n, above, below, ⟨_, there⟩ | ⟨there, _⟩⟩
  · exact letter
  · exact .inr (by omega)
  · exact .inl (by omega)

theorem nameChars_of_spells (letters : ∀ c ∈ name, IsNameLetter c) (spells : Spells name word) :
    ∀ d ∈ word, IsNameChar d := by
  induction spells with
  | nil => nofun
  | underscore rest ih => exact List.forall_mem_cons.mpr ⟨.inl rfl, ih letters⟩
  | letter same rest ih =>
    obtain ⟨first, letters⟩ := List.forall_mem_cons.mp letters
    exact List.forall_mem_cons.mpr ⟨nameChar_of_sameLetter first.1 same, ih letters⟩

theorem nameChars_of_sameText {s t : List Char} (letters : ∀ c ∈ t, IsLetter c)
    (same : SameText s t) : ∀ d ∈ s, IsNameChar d := by
  induction same with
  | nil => nofun
  | cons first _ ih =>
    obtain ⟨letter, letters⟩ := List.forall_mem_cons.mp letters
    refine List.forall_mem_cons.mpr ⟨?_, ih letters⟩
    exact nameChar_of_sameLetter letter (toLower_eq_iff.mp (toLower_eq_iff.mpr first).symm)

theorem ne_nil_of_spells (spells : Spells f.text.toList word) : word ≠ [] := by
  rintro rfl
  cases f <;> cases spells

theorem ascii_of_nameChar {c : Char} (inside : IsNameChar c) : c.toNat < 128 := by
  have code := code_of_nameChar inside
  omega

theorem ne_comma_of_nameChar {c : Char} (inside : IsNameChar c) : c ≠ ',' := by
  rintro rfl
  exact absurd (code_of_nameChar inside) (by decide)

theorem forall_mem_marked {p : Char → Prop} {desc : List Char} (name_all : ∀ c ∈ word, p c)
    (space : p ' ') (desc_all : ∀ c ∈ desc, p c) (spaces : Nat) :
    ∀ c ∈ word ++ List.replicate spaces ' ' ++ desc, p c := by
  intro c member
  rw [List.mem_append, List.mem_append, List.mem_replicate] at member
  rcases member with (named | ⟨_, rfl⟩) | marked
  · exact name_all c named
  · exact space
  · exact desc_all c marked

theorem desc_nameChars {desc : List Char} (marked : SameText desc ['d', 'e', 's', 'c']) :
    ∀ c ∈ desc, IsNameChar c :=
  nameChars_of_sameText (forall_mem_of_all (by decide)) marked

theorem map_toLower_desc {desc : List Char} (marked : SameText desc ['d', 'e', 's', 'c']) :
    desc.map Char.toLower = ['d', 'e', 's', 'c'] :=
  map_toLower_eq_iff.mpr marked

theorem directionOf_name (inside : ∀ c ∈ word, IsNameChar c) :
    SortSpec.directionOf word = .ascending := by
  refine if_neg fun suffix => ?_
  have space : ' ' ∈ lower word := (List.isSuffixOf_iff_suffix.mp suffix).subset List.mem_cons_self
  rw [lower_of_ascii fun c member => ascii_of_nameChar (inside c member)] at space
  obtain ⟨c, member, lowers⟩ := List.mem_map.mp space
  have lowered : c.toLower.toNat = 0x20 := by rw [lowers]; rfl
  have code := code_of_nameChar (inside c member)
  rw [toNat_toLower] at lowered
  split at lowered <;> omega

theorem directionOf_marked {desc : List Char} (inside : ∀ c ∈ word, IsNameChar c) (spaces : Nat)
    (marked : SameText desc ['d', 'e', 's', 'c']) :
    SortSpec.directionOf (word ++ List.replicate (spaces + 1) ' ' ++ desc) = .descending := by
  refine if_pos
    (List.isSuffixOf_iff_suffix.mpr ⟨word.map Char.toLower ++ List.replicate spaces ' ', ?_⟩)
  have ascii : ∀ c ∈ word ++ List.replicate (spaces + 1) ' ' ++ desc, c.toNat < 128 :=
    forall_mem_marked (fun c member => ascii_of_nameChar (inside c member)) (by decide)
      (fun c member => ascii_of_nameChar (desc_nameChars marked c member)) _
  have space : ' '.toLower = ' ' := by decide
  rw [lower_of_ascii ascii, List.map_append, List.map_append, map_toLower_desc marked,
    List.map_replicate, space, List.replicate_succ']
  simp only [List.append_assoc, List.cons_append, List.nil_append]

theorem keyOf_written (written : k.Written token) : SortSpec.keyOf token = .ok k := by
  cases written with
  | @ascending f _ spells =>
    have inside := nameChars_of_spells f.text_letters spells
    have word_first : firstWord token = token := by
      have visible : ∀ c ∈ token, isBlank c = false :=
        fun c member => isBlank_of_nameChar (inside c member)
      have alone : firstWord (token ++ []) = token := firstWord_append visible nofun
      rwa [List.append_nil] at alone
    rw [SortSpec.keyOf, word_first, SortField.lookup?_eq_some_iff.mpr spells,
      directionOf_name inside]
  | @descending f word desc spells spaces marked =>
    have inside := nameChars_of_spells f.text_letters spells
    have word_first : firstWord (word ++ List.replicate (spaces + 1) ' ' ++ desc) = word := by
      rw [List.append_assoc]
      refine firstWord_append (fun c member => isBlank_of_nameChar (inside c member)) ?_
      intro c first
      obtain rfl : ' ' = c := by simpa [List.replicate_succ] using first
      decide
    rw [SortSpec.keyOf, word_first, SortField.lookup?_eq_some_iff.mpr spells,
      directionOf_marked inside spaces marked]

theorem written_ends (written : k.Written token) :
    token ≠ [] ∧ (∀ c ∈ token.head?, IsNameChar c) ∧ (∀ c ∈ token.getLast?, IsNameChar c) ∧
    ',' ∉ token := by
  cases written with
  | @ascending f _ spells =>
    have inside := nameChars_of_spells f.text_letters spells
    exact ⟨ne_nil_of_spells spells, fun c first => inside c (List.mem_of_mem_head? first),
      fun c last => inside c (List.mem_of_mem_getLast? last),
      fun comma => ne_comma_of_nameChar (inside _ comma) rfl⟩
  | @descending f word desc spells spaces marked =>
    have inside := nameChars_of_spells f.text_letters spells
    have mark : desc ≠ [] := by
      rintro rfl
      cases marked
    refine ⟨by simp [mark], ?_, ?_, ?_⟩
    · intro c first
      rw [List.append_assoc, List.head?_append_of_ne_nil _ (ne_nil_of_spells spells)] at first
      exact inside c (List.mem_of_mem_head? first)
    · intro c last
      rw [List.getLast?_append_of_ne_nil _ mark] at last
      exact desc_nameChars marked c (List.mem_of_mem_getLast? last)
    · intro comma
      exact forall_mem_marked (p := (· ≠ ','))
        (fun c member => ne_comma_of_nameChar (inside c member)) (by decide)
        (fun c member => ne_comma_of_nameChar (desc_nameChars marked c member)) _ ',' comma rfl

theorem trim_written {front back : List Char} (written : k.Written token)
    (before : ∀ c ∈ front, isBlank c = true)
    (after : ∀ c ∈ back, isBlank c = true) : trim (front ++ token ++ back) = token := by
  obtain ⟨_, first, last, _⟩ := written_ends written
  refine (isCore_iff.mp ⟨⟨front, back, rfl, before, after⟩, ?_, ?_⟩).symm
  · exact fun c member => isBlank_of_nameChar (first c member)
  · exact fun c member => isBlank_of_nameChar (last c member)

theorem comma_notMem_of_blank (blank : ∀ c ∈ piece, isBlank c = true) : ',' ∉ piece := by
  intro comma
  exact absurd (blank _ comma) (by decide)

def keysOf (pieces : List (List Char)) : Except ValidationError (List SortKey) :=
  ((pieces.map trim).filter fun token => !token.isEmpty).mapM SortSpec.keyOf

section Orders

variable {pieces : List (List Char)} {keys : List SortKey} {text : String} {e : ValidationError}

theorem keysOf_cons_of_blank (nothing : trim piece = []) :
    keysOf (piece :: pieces) = keysOf pieces := by
  simp [keysOf, nothing]

theorem keysOf_cons (something : trim piece ≠ []) :
    keysOf (piece :: pieces) = (do
      let k ← SortSpec.keyOf (trim piece)
      let ks ← keysOf pieces
      pure (k :: ks)) := by
  simp only [keysOf, List.map_cons]
  rw [List.filter_cons_of_pos (by simpa using something), List.mapM_cons]

theorem parse_eq (split : CommaPieces pieces text) :
    SortSpec.parse (some text) = (keysOf pieces).map SortSpec.ofKeys := by
  rw [SortSpec.parse, SortSpec.tokensOf, splitOn_of_commaPieces split, keysOf]

theorem keysOf_orderPieces (written : OrderPieces keys pieces) : keysOf pieces = .ok keys := by
  induction written with
  | nil => rfl
  | blank blank _ ih => rw [keysOf_cons_of_blank (trim_of_blank blank), ih]
  | key _ _ before written after _ ih =>
    have token := trim_written written before after
    rw [keysOf_cons (token.symm ▸ (written_ends written).1), token, keyOf_written written, ih]
    rfl

theorem comma_notMem_of_orderPieces (written : OrderPieces keys pieces) :
    ∀ piece ∈ pieces, ',' ∉ piece := by
  induction written with
  | nil => nofun
  | blank blank _ ih => exact List.forall_mem_cons.mpr ⟨comma_notMem_of_blank blank, ih⟩
  | key _ _ before written after _ ih =>
    refine List.forall_mem_cons.mpr ⟨?_, ih⟩
    simp only [List.mem_append, not_or]
    exact ⟨⟨comma_notMem_of_blank before, (written_ends written).2.2.2⟩,
      comma_notMem_of_blank after⟩

theorem keysOf_cons_cases (piece : List Char) :
    (∃ word, Misnamed word piece ∧ ∀ pieces,
      keysOf (piece :: pieces) = .error (.sortField (String.ofList word))) ∨
    ((∀ word, ¬ Misnamed word piece) ∧
      ∀ pieces e, keysOf (piece :: pieces) = .error e ↔ keysOf pieces = .error e) := by
  by_cases something : trim piece = []
  · refine .inr ⟨fun word misnamed => (firstWord_iff.mp misnamed.1).1 something, fun pieces e => ?_⟩
    rw [keysOf_cons_of_blank something]
  · cases found : SortField.lookup? (firstWord (trim piece)) with
    | none =>
      refine .inl ⟨firstWord (trim piece),
        ⟨firstWord_iff.mpr ⟨something, rfl⟩, SortField.lookup?_eq_none_iff.mp found⟩,
        fun pieces => ?_⟩
      rw [keysOf_cons something, SortSpec.keyOf, found]
      rfl
    | some f =>
      refine .inr ⟨?_, fun pieces e => ?_⟩
      · rintro word ⟨first, unnamed⟩
        rw [(firstWord_iff.mp first).2] at unnamed
        exact unnamed ⟨f, SortField.lookup?_eq_some_iff.mp found⟩
      · rw [keysOf_cons something, SortSpec.keyOf, found]
        cases keysOf pieces with
        | error e' => rfl
        | ok ks => exact ⟨nofun, nofun⟩

theorem keysOf_eq_error_iff : keysOf pieces = .error e ↔ ∃ before piece after word,
    pieces = before ++ piece :: after ∧ Misnamed word piece ∧ (∀ p ∈ before, ∀ w, ¬ Misnamed w p) ∧
      e = .sortField (String.ofList word) := by
  induction pieces with
  | nil =>
    constructor
    · nofun
    · rintro ⟨before, piece, after, _, split, _⟩
      cases before <;> cases split
  | cons first pieces ih =>
    rcases keysOf_cons_cases first with ⟨word, misnamed, refused⟩ | ⟨named, rest⟩
    · rw [refused, Except.error.injEq]
      constructor
      · rintro rfl
        exact ⟨[], first, pieces, word, rfl, misnamed, nofun, rfl⟩
      · rintro ⟨before, piece, after, w, split, misnamed', named, rfl⟩
        cases before with
        | nil =>
          obtain ⟨rfl, _⟩ := List.cons.inj split
          rw [(firstWord_iff.mp misnamed.1).2, (firstWord_iff.mp misnamed'.1).2]
        | cons p before =>
          obtain ⟨rfl, _⟩ := List.cons.inj split
          exact absurd misnamed (named first List.mem_cons_self word)
    · rw [rest, ih]
      constructor
      · rintro ⟨before, piece, after, word, rfl, misnamed, named', reported⟩
        exact ⟨first :: before, piece, after, word, rfl, misnamed,
          List.forall_mem_cons.mpr ⟨named, named'⟩, reported⟩
      · rintro ⟨before, piece, after, word, split, misnamed, named', reported⟩
        cases before with
        | nil =>
          obtain ⟨rfl, _⟩ := List.cons.inj split
          exact absurd misnamed (named word)
        | cons p before =>
          obtain ⟨_, rfl⟩ := List.cons.inj split
          exact ⟨before, piece, after, word, rfl, misnamed,
            (List.forall_mem_cons.mp named').2, reported⟩

/-- Whatever way keys are written as an order, they are what the order is read as, the default order
for none. An order is refused exactly when a piece of it begins with something else than the name of
a field, and then for the first such word. -/
theorem orderBy_read (text : String) :
    (∀ keys pieces, OrderPieces keys pieces → text.toList = [','].intercalate pieces →
      SortSpec.parse (some text) = .ok ⟨if keys = [] then [⟨.name, .ascending⟩] else keys⟩) ∧
    (∃ pieces, CommaPieces pieces text) ∧
    ∀ pieces, CommaPieces pieces text → ∀ e, SortSpec.parse (some text) = .error e ↔
      ∃ before piece after word, pieces = before ++ piece :: after ∧ Misnamed word piece ∧
        (∀ p ∈ before, ∀ w, ¬ Misnamed w p) ∧ e = .sortField (String.ofList word) := by
  refine ⟨fun keys pieces written joined => ?_, ⟨_, commaPieces_splitOn text⟩,
    fun pieces split e => ?_⟩
  · have read : SortSpec.parse (some text) = (keysOf pieces).map SortSpec.ofKeys := by
      cases pieces with
      | nil =>
        have empty : text.toList = [] := joined
        rw [SortSpec.parse, empty]
        rfl
      | cons piece pieces => exact parse_eq ⟨nofun, joined, comma_notMem_of_orderPieces written⟩
    rw [read, keysOf_orderPieces written, Except.map, SortSpec.ofKeys]
    cases keys <;> rfl
  · rw [parse_eq split, ← keysOf_eq_error_iff]
    cases keysOf pieces with
    | error e' => simp only [Except.map, Except.error.injEq]
    | ok keys => exact ⟨nofun, nofun⟩

/-- A descending and an ascending key in letters of both cases, with a blank piece between them. The
second name begins with the word for the other direction. -/
theorem orderBy_read_description :
    SortSpec.parse (some "Status  dEsc, ,\tDESC_ription\u3000") =
      .ok ⟨[⟨.status, .descending⟩, ⟨.description, .ascending⟩]⟩ := by
  have status : Spells SortField.status.text.toList "Status".toList :=
    (spelling_eq_iff (SortField.text_letters _)).mp (by decide +kernel)
  have description : Spells SortField.description.text.toList "DESC_ription".toList :=
    (spelling_eq_iff (SortField.text_letters _)).mp (by decide +kernel)
  have marked : SameText "dEsc".toList ['d', 'e', 's', 'c'] := map_toLower_eq_iff.mp (by decide)
  have written : OrderPieces [⟨.status, .descending⟩, ⟨.description, .ascending⟩]
      ["Status  dEsc".toList, " ".toList, "\tDESC_ription\u3000".toList] :=
    .key [] [] nofun (.descending status 1 marked) nofun <|
    .blank (forall_mem_of_all (by decide)) <|
    .key ['\t'] ['\u3000'] (forall_mem_of_all (by decide)) (.ascending description)
      (forall_mem_of_all (by decide)) .nil
  exact (orderBy_read _).1 _ _ written (by decide)

end Orders
end MissionTracking
