/-!
Case folding for comparisons, and the search for one text inside another. Folding maps the letters A
to Z and leaves every other character alone, so that a table and a list in memory fold alike
whatever the locale.
-/
namespace MissionTracking.Text

/-- Lower case of the letters A to Z; `Char.toLower` knows no others. -/
def foldCase (s : String) : String := String.ofList (s.toList.map Char.toLower)

def occursIn (needle : List Char) : List Char → Bool
  | [] => needle.isEmpty
  | c :: cs => needle.isPrefixOf (c :: cs) || occursIn needle cs

def contains (haystack needle : String) : Bool := occursIn needle.toList haystack.toList

theorem occursIn_iff {needle cs : List Char} : occursIn needle cs = true ↔ needle <:+: cs := by
  induction cs with
  | nil => simp [occursIn, List.isEmpty_iff]
  | cons c cs ih => simp [occursIn, ih, List.infix_cons_iff]

end MissionTracking.Text
