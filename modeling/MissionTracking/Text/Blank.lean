import MissionTracking.Text.CodePoints

/-!
White space around and between words. A character is blank when it has the Unicode property
White_Space: 25 code points, among them the no-break spaces, but neither the zero-width space nor
the byte order mark.
-/
namespace MissionTracking.Text

def blankRanges : Ranges :=
  [(0x09, 0x0D), (0x20, 0x20), (0x85, 0x85), (0xA0, 0xA0), (0x1680, 0x1680), (0x2000, 0x200A),
    (0x2028, 0x2029), (0x202F, 0x202F), (0x205F, 0x205F), (0x3000, 0x3000)]

def isBlank (c : Char) : Bool := blankRanges.covers c

def dropBlanks (cs : List Char) : List Char := cs.dropWhile isBlank

def trim (cs : List Char) : List Char := (dropBlanks (dropBlanks cs).reverse).reverse

def trimmed (s : String) : String := String.ofList (trim s.toList)

def IsBlankText (s : String) : Prop := trim s.toList = []

instance (s : String) : Decidable (IsBlankText s) :=
  inferInstanceAs (Decidable (trim s.toList = []))

def firstWord (cs : List Char) : List Char := cs.takeWhile fun c => !isBlank c

theorem dropBlanks_append (cs rest : List Char) :
    dropBlanks (cs ++ rest) =
      if cs.all isBlank then dropBlanks rest else dropBlanks cs ++ rest := by
  induction cs with
  | nil => simp [dropBlanks]
  | cons c cs ih =>
    simp only [dropBlanks, List.cons_append, List.dropWhile_cons, List.all_cons] at ih ⊢
    cases isBlank c <;> simp_all

end MissionTracking.Text
