import Mathlib.Data.String.Basic

/-!
Texts by their bytes. The bytes of a greater character are greater, so that texts compare byte by
byte in UTF-8 as they compare character by character.
-/
namespace MissionTracking.Text

def bytes (s : String) : List UInt8 := s.toUTF8.data.toList

def byteOrder (a b : String) : Ordering := compareOfLessAndEq (bytes a) (bytes b)

theorem bytes_eq_flatMap (s : String) : bytes s = s.toList.flatMap String.utf8EncodeChar := by
  rw [bytes, String.toUTF8_eq_toByteArray, ← String.utf8Encode_toList, List.utf8Encode,
    List.data_toByteArray]

theorem ofNat_cons_lt {m n : Nat} (hm : m < 256) (hn : n < 256) {as bs : List UInt8} :
    UInt8.ofNat m :: as < UInt8.ofNat n :: bs ↔ m < n ∨ m = n ∧ as < bs := by
  rw [List.cons_lt_cons_iff, UInt8.lt_iff_toNat_lt, ← UInt8.toNat_inj, UInt8.toNat_ofNat',
    UInt8.toNat_ofNat', Nat.mod_eq_of_lt hm, Nat.mod_eq_of_lt hn]

theorem utf8EncodeChar_lt {c d : Char} (less : c < d) (as bs : List UInt8) :
    String.utf8EncodeChar c ++ as < String.utf8EncodeChar d ++ bs := by
  have numbers : c.val.toNat < d.val.toNat := less
  have limit : d.val.toNat < 0x110000 := by
    rcases d.valid with small | ⟨_, large⟩ <;> omega
  unfold String.utf8EncodeChar
  generalize c.val.toNat = v at *
  generalize d.val.toNat = w at *
  dsimp only
  split_ifs <;> simp only [List.cons_append, List.nil_append]
  -- The lengths are in the order of the characters, and the first byte tells the length.
  all_goals try first | omega | exact (ofNat_cons_lt (by omega) (by omega)).mpr (.inl (by omega))
  · have order : v / 64 < w / 64 ∨ v / 64 = w / 64 ∧ v % 64 < w % 64 := by omega
    rw [ofNat_cons_lt (by omega) (by omega), ofNat_cons_lt (by omega) (by omega)]
    rcases order with lead | ⟨lead, next⟩
    · exact .inl (by omega)
    · exact .inr ⟨by omega, .inl (by omega)⟩
  · have order : v / 4096 < w / 4096 ∨ v / 4096 = w / 4096 ∧ (v / 64 % 64 < w / 64 % 64 ∨
        v / 64 % 64 = w / 64 % 64 ∧ v % 64 < w % 64) := by omega
    rw [ofNat_cons_lt (by omega) (by omega), ofNat_cons_lt (by omega) (by omega),
      ofNat_cons_lt (by omega) (by omega)]
    rcases order with lead | ⟨lead, next | ⟨next, last⟩⟩
    · exact .inl (by omega)
    · exact .inr ⟨by omega, .inl (by omega)⟩
    · exact .inr ⟨by omega, .inr ⟨by omega, .inl (by omega)⟩⟩
  · have order :
        v / 262144 < w / 262144 ∨ v / 262144 = w / 262144 ∧ (v / 4096 % 64 < w / 4096 % 64 ∨
        v / 4096 % 64 = w / 4096 % 64 ∧ (v / 64 % 64 < w / 64 % 64 ∨
        v / 64 % 64 = w / 64 % 64 ∧ v % 64 < w % 64)) := by omega
    rw [ofNat_cons_lt (by omega) (by omega), ofNat_cons_lt (by omega) (by omega),
      ofNat_cons_lt (by omega) (by omega), ofNat_cons_lt (by omega) (by omega)]
    rcases order with lead | ⟨lead, next | ⟨next, third | ⟨third, last⟩⟩⟩
    · exact .inl (by omega)
    · exact .inr ⟨by omega, .inl (by omega)⟩
    · exact .inr ⟨by omega, .inr ⟨by omega, .inl (by omega)⟩⟩
    · exact .inr ⟨by omega, .inr ⟨by omega, .inr ⟨by omega, .inl (by omega)⟩⟩⟩

theorem flatMap_utf8EncodeChar_lt {cs ds : List Char} (less : cs < ds) :
    cs.flatMap String.utf8EncodeChar < ds.flatMap String.utf8EncodeChar := by
  induction cs generalizing ds with
  | nil =>
    cases ds with
    | nil => exact absurd less (List.lt_irrefl _)
    | cons d ds =>
      obtain ⟨b, bs, encoded⟩ := List.exists_cons_of_ne_nil (String.utf8EncodeChar_ne_nil (c := d))
      rw [List.flatMap_cons, encoded]
      exact List.nil_lt_cons b _
  | cons c cs ih =>
    cases ds with
    | nil => exact absurd less (List.not_lt_nil _)
    | cons d ds =>
      rw [List.flatMap_cons, List.flatMap_cons]
      rcases List.cons_lt_cons_iff.mp less with first | ⟨same, others⟩
      · exact utf8EncodeChar_lt first _ _
      · rw [same]
        exact List.append_left_lt (ih others)

theorem bytes_lt {a b : String} (less : a < b) : bytes a < bytes b := by
  rw [bytes_eq_flatMap, bytes_eq_flatMap]
  exact flatMap_utf8EncodeChar_lt (String.lt_iff.mp less)

theorem byteOrder_eq_compare (a b : String) : byteOrder a b = compare a b := by
  have texts : compare a b = compareOfLessAndEq a b := rfl
  rw [texts, byteOrder]
  rcases lt_trichotomy a b with less | rfl | greater
  · rw [compareOfLessAndEq, compareOfLessAndEq, if_pos (bytes_lt less), if_pos less]
  · rw [compareOfLessAndEq, compareOfLessAndEq, if_neg (List.lt_irrefl _),
      if_neg (String.lt_irrefl _), if_pos rfl, if_pos rfl]
  · have after := bytes_lt greater
    rw [compareOfLessAndEq, compareOfLessAndEq, if_neg (List.lt_asymm after),
      if_neg (String.lt_asymm greater), if_neg fun same => List.lt_irrefl _ (same ▸ after),
      if_neg fun same => String.lt_irrefl _ (same ▸ greater)]

end MissionTracking.Text
