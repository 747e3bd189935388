import MissionTracking.Proofs.Text.Comparison
import MissionTracking.Text.Lower

/-!
Lower case among the letters A to Z. The tables of Unicode give each of these letters its other
case, and no character outside of them has one of these for its lower case, except that the Kelvin
sign has the k.
-/
namespace MissionTracking.Text

def IsLetter (c : Char) : Prop := 0x41 ≤ c.toNat ∧ c.toNat ≤ 0x5A ∨ 0x61 ≤ c.toNat ∧ c.toNat ≤ 0x7A

instance (c : Char) : Decidable (IsLetter c) := inferInstanceAs (Decidable (_ ∨ _))

variable {c d : Char}

theorem sameLetter_iff_eq (other : ¬ IsLetter d) : SameLetter c d ↔ c = d := by
  constructor
  · rintro (same | ⟨n, above, below, cases⟩)
    · exact same
    · have letter : IsLetter d := by
        rcases cases with ⟨_, small⟩ | ⟨capital, _⟩
        · exact .inr (by omega)
        · exact .inl (by omega)
      exact absurd letter other
  · exact .inl

theorem lowerChar_cases (c : Char) :
    c = 'İ' ∨ lowerChar c = [c] ∨
      ∃ run ∈ lowerRuns, run.covers c = true ∧
      lowerChar c = [Char.ofNat (c.toNat + run.offset).toNat] := by
  unfold lowerChar
  split
  · rename_i dotted
    exact .inl dotted
  · split
    · rename_i run found
      have covered := List.find?_some found
      exact .inr (.inr ⟨run, List.mem_of_find?_eq_some found, covered, rfl⟩)
    · exact .inr (.inl rfl)

theorem lowerChar_ne_nil (c : Char) : lowerChar c ≠ [] := by
  rcases lowerChar_cases c with rfl | same | ⟨_, _, _, same⟩
  · rw [lowerChar, if_pos rfl]
    nofun
  · rw [same]
    nofun
  · rw [same]
    nofun

theorem exists_lowerChar_eq (plain : c ≠ 'İ') : ∃ x, lowerChar c = [x] := by
  rcases lowerChar_cases c with same | same | ⟨_, _, _, same⟩
  · exact absurd same plain
  · exact ⟨_, same⟩
  · exact ⟨_, same⟩

theorem lowerRuns_apart : ∀ run ∈ lowerRuns,
    (run.first = 0x41 ∧ run.last = 0x5A ∧ run.offset = 32) ∨
    (run.first = 0x212A ∧ run.last = 0x212A ∧ run.offset = 0x6B - 0x212A) ∨
    run.last + run.offset < 0x61 ∨ 0x7A < run.first + run.offset := by
  have each : ∀ run ∈ lowerRuns, (decide (run.first = 0x41 ∧ run.last = 0x5A ∧ run.offset = 32) ||
    decide (run.first = 0x212A ∧ run.last = 0x212A ∧ run.offset = 0x6B - 0x212A) ||
    decide (run.last + run.offset < 0x61 ∨ 0x7A < run.first + run.offset)) = true := by
    decide +kernel
  simpa only [Bool.or_eq_true, decide_eq_true_eq, or_assoc] using each

theorem lowerChar_of_ascii (ascii : c.toNat < 128) : lowerChar c = [c.toLower] := by
  have runs :
      ∃ others, lowerRuns = ⟨0x41, 0x5A, 1, 32⟩ :: others ∧ ∀ run ∈ others, 128 ≤ run.first :=
    ⟨lowerRuns.tail, rfl, by decide +kernel⟩
  obtain ⟨others, split, beyond⟩ := runs
  have uncovered : others.find? (·.covers c) = none := by
    rw [List.find?_eq_none]
    intro run member covered
    have first := beyond run member
    simp only [CaseRun.covers, decide_eq_true_eq] at covered
    omega
  have plain : c ≠ 'İ' := by
    rintro rfl
    exact absurd ascii (by decide)
  rw [lowerChar, if_neg plain, split, List.find?_cons]
  by_cases capital : 0x41 ≤ c.toNat ∧ c.toNat ≤ 0x5A
  · have covered : (CaseRun.mk 0x41 0x5A 1 32).covers c = true := by
      simp [CaseRun.covers, capital, Nat.mod_one]
    have lowered : Char.ofNat (c.toNat + 32) = c.toLower := by
      rw [← Char.ofNat_toNat c.toLower, toNat_toLower, if_pos capital]
    simp only [covered, ← lowered]
    rfl
  · have missed : (CaseRun.mk 0x41 0x5A 1 32).covers c = false := by
      simpa [CaseRun.covers, Nat.mod_one] using capital
    have kept : c.toLower = c := by rw [← Char.toNat_inj, toNat_toLower, if_neg capital]
    simp only [missed, uncovered, kept]

theorem toNat_ofNat_cases (n : Nat) : (Char.ofNat n).toNat = n ∨ (Char.ofNat n).toNat = 0 := by
  by_cases valid : n.isValidChar
  · have kept : Char.ofNat n = Char.ofNatAux n valid := dif_pos valid
    exact .inl (by rw [kept]; rfl)
  · have null : Char.ofNat n = '\x00' := dif_neg valid
    exact .inr (by rw [null]; rfl)

theorem toNat_toLower_of_letter (letter : IsLetter c) :
    0x61 ≤ c.toLower.toNat ∧ c.toLower.toNat ≤ 0x7A := by
  rw [toNat_toLower]
  rcases letter with capital | small
  · rw [if_pos capital]
    omega
  · rw [if_neg (by omega)]
    exact small

theorem toLower_toLower (c : Char) : c.toLower.toLower = c.toLower := by
  rw [← Char.toNat_inj, toNat_toLower c.toLower, toNat_toLower c]
  split_ifs <;> omega

theorem lowerChar_eq_singleton_iff (letter : IsLetter c) (other : c.toLower ≠ 'k') :
    lowerChar d = [c.toLower] ↔ SameLetter c d := by
  obtain ⟨low, high⟩ := toNat_toLower_of_letter letter
  rw [← toLower_eq_iff]
  constructor
  · intro lowers
    rcases lowerChar_cases d with dotted | same | ⟨run, member, covered, made⟩
    · rw [lowerChar, if_pos dotted] at lowers
      cases (List.cons.inj lowers).2
    · obtain rfl := List.singleton_inj.mp (same.symm.trans lowers)
      exact (toLower_toLower c).symm
    · have place : (d.toNat + run.offset).toNat = c.toLower.toNat := by
        have chars := congrArg Char.toNat (List.singleton_inj.mp (made.symm.trans lowers))
        rcases toNat_ofNat_cases (d.toNat + run.offset).toNat with valid | null <;> omega
      have k : c.toLower.toNat ≠ 0x6B := fun same => other (Char.toNat_inj.mp same)
      simp only [CaseRun.covers, decide_eq_true_eq] at covered
      rw [← Char.toNat_inj, toNat_toLower d]
      rcases lowerRuns_apart run member with
        ⟨first, last, offset⟩ | ⟨first, last, offset⟩ | below | above
      · rw [if_pos (by omega)]
        omega
      · omega
      · omega
      · omega
  · intro same
    have ascii : d.toNat < 128 := by
      have lowered := toNat_toLower d
      rw [← same] at lowered
      split at lowered <;> omega
    rw [lowerChar_of_ascii ascii, same]

theorem lowerChar_append_eq_cons_iff {rest texts : List Char} (letter : IsLetter c)
    (other : c.toLower ≠ 'k') (ascii : ∀ x ∈ texts, x.toNat < 128) :
    lowerChar d ++ rest = c.toLower :: texts ↔ SameLetter c d ∧ rest = texts := by
  rw [← lowerChar_eq_singleton_iff letter other]
  by_cases dotted : d = 'İ'
  · rw [lowerChar, if_pos dotted]
    constructor
    · intro whole
      have mark : '\u0307' ∈ texts := by
        rw [← (List.cons.inj whole).2]
        exact List.mem_cons_self
      exact absurd (ascii _ mark) (by decide)
    · rintro ⟨single, _⟩
      cases (List.cons.inj single).2
  · obtain ⟨x, single⟩ := exists_lowerChar_eq dotted
    rw [single, List.singleton_append, List.cons.injEq, List.cons.injEq]
    simp only [and_true]

theorem lower_of_ascii {cs : List Char} (ascii : ∀ c ∈ cs, c.toNat < 128) :
    lower cs = cs.map Char.toLower := by
  have after (before : List Char) : lowerAfter before cs = cs.map Char.toLower := by
    induction cs generalizing before with
    | nil => rfl
    | cons c cs ih =>
      obtain ⟨first, later⟩ := List.forall_mem_cons.mp ascii
      have plain : c ≠ 'Σ' := by
        rintro rfl
        exact absurd first (by decide)
      rw [lowerAfter, lowerChar_of_ascii first, ih later]
      · rfl
      · exact plain
  exact after []

/-- No character but its own other case has this ASCII character for its lower case. -/
structure IsLowerAlone (x : Char) : Prop where
  ascii : x.toNat < 128
  alone : ∀ d, lowerChar d = [x] ↔ SameLetter d x

theorem isLowerAlone_letter (letter : IsLetter c) (lowered : c.toLower = c) (other : c ≠ 'k') :
    IsLowerAlone c where
  ascii := by rcases letter with capital | small <;> omega
  alone d := by
    have lowers := lowerChar_eq_singleton_iff (d := d) letter (lowered.symm ▸ other)
    rw [lowered] at lowers
    rw [lowers, ← toLower_eq_iff, ← toLower_eq_iff, eq_comm]

theorem lowerRuns_above_space : ∀ run ∈ lowerRuns, 0x61 ≤ run.first + run.offset := by
  decide +kernel

theorem isLowerAlone_space : IsLowerAlone ' ' where
  ascii := by decide
  alone d := by
    rw [sameLetter_iff_eq (by decide)]
    constructor
    · intro lowers
      rcases lowerChar_cases d with rfl | same | ⟨run, member, covered, made⟩
      · rw [lowerChar, if_pos rfl] at lowers
        cases (List.cons.inj lowers).2
      · exact List.singleton_inj.mp (same.symm.trans lowers)
      · have code : (Char.ofNat (d.toNat + run.offset).toNat).toNat = 0x20 :=
          congrArg Char.toNat (List.singleton_inj.mp (made.symm.trans lowers))
        have above := lowerRuns_above_space run member
        simp only [CaseRun.covers, decide_eq_true_eq] at covered
        rcases toNat_ofNat_cases (d.toNat + run.offset).toNat with valid | null <;> omega
    · rintro rfl
      exact lowerChar_of_ascii (by decide)

/-- In lower case a character is one character, except for the capital I with a dot, which is no
case of a letter. -/
theorem lowerAfter_cons_cases (before : List Char) (c : Char) (cs : List Char) :
    (∃ y, lowerAfter before (c :: cs) = y :: lowerAfter (c :: before) cs ∧
      ∀ x, IsLowerAlone x → (y = x ↔ SameLetter c x)) ∨
    (lowerAfter before (c :: cs) = 'i' :: '\u0307' :: lowerAfter (c :: before) cs ∧
      ∀ x, IsLowerAlone x → ¬ SameLetter c x) := by
  by_cases sigma : c = 'Σ'
  · subst sigma
    refine .inl ⟨_, rfl, fun x lower => ?_⟩
    have lowers : lowerChar 'Σ' = ['σ'] := by decide +kernel
    have small := lower.ascii
    rw [← lower.alone, lowers, List.singleton_inj]
    constructor
    · rintro rfl
      split at small <;> exact absurd small (by decide)
    · rintro rfl
      exact absurd small (by decide)
  · have first : lowerAfter before (c :: cs) = lowerChar c ++ lowerAfter (c :: before) cs := by
      rw [lowerAfter]
      exact sigma
    by_cases dotted : c = 'İ'
    · have lowers : lowerChar c = ['i', '\u0307'] := if_pos dotted
      refine .inr ⟨by rw [first, lowers]; rfl, fun x lower same => ?_⟩
      have single := (lower.alone c).mpr same
      rw [lowers] at single
      cases (List.cons.inj single).2
    · obtain ⟨y, lowers⟩ := exists_lowerChar_eq dotted
      refine .inl ⟨y, by rw [first, lowers]; rfl, fun x lower => ?_⟩
      rw [← lower.alone, lowers, List.singleton_inj]

variable {texts : List Char}

theorem lowerAfter_eq_iff (lower : ∀ x ∈ texts, IsLowerAlone x) (before cs : List Char) :
    lowerAfter before cs = texts ↔ SameText cs texts := by
  induction cs generalizing before texts with
  | nil =>
    rw [lowerAfter, SameText, List.forall₂_nil_left_iff]
    exact eq_comm
  | cons c cs ih =>
    cases texts with
    | nil =>
      have filled : lowerAfter before (c :: cs) ≠ [] := by
        rcases lowerAfter_cons_cases before c cs with ⟨y, read, _⟩ | ⟨read, _⟩ <;> simp [read]
      simp [SameText, filled]
    | cons x xs =>
      obtain ⟨first, later⟩ := List.forall_mem_cons.mp lower
      rw [SameText, List.forall₂_cons]
      rcases lowerAfter_cons_cases before c cs with ⟨y, read, same⟩ | ⟨read, other⟩
      · rw [read, List.cons.injEq, same x first, ih later]
        rfl
      · rw [read, List.cons.injEq]
        constructor
        · rintro ⟨_, rfl⟩
          exact absurd (later _ List.mem_cons_self).ascii (by decide)
        · rintro ⟨same, _⟩
          exact absurd same (other x first)

/-- A text in lower case ends in such characters exactly when the text itself does, in either
case. -/
theorem suffix_lowerAfter_iff (lower : ∀ x ∈ texts, IsLowerAlone x) (before cs : List Char) :
    texts <:+ lowerAfter before cs ↔ ∃ back, back <:+ cs ∧ SameText back texts := by
  induction cs generalizing before with
  | nil =>
    simp only [lowerAfter, List.suffix_nil, exists_eq_left, SameText, List.forall₂_nil_left_iff]
  | cons c cs ih =>
    have step : texts <:+ lowerAfter before (c :: cs) ↔
        lowerAfter before (c :: cs) = texts ∨ texts <:+ lowerAfter (c :: before) cs := by
      rcases lowerAfter_cons_cases before c cs with ⟨y, read, _⟩ | ⟨read, _⟩
      · rw [read, List.suffix_cons_iff, eq_comm]
      · rw [read, List.suffix_cons_iff, List.suffix_cons_iff, eq_comm]
        have mark : texts ≠ '\u0307' :: lowerAfter (c :: before) cs := by
          rintro rfl
          exact absurd (lower _ List.mem_cons_self).ascii (by decide)
        simp only [mark, false_or]
    rw [step, ih, lowerAfter_eq_iff lower]
    simp only [List.suffix_cons_iff, or_and_right, exists_or, exists_eq_left]

end MissionTracking.Text
