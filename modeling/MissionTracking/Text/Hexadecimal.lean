/-!
Numbers in hexadecimal. Digits are read in either case and written in lower case.
-/
namespace MissionTracking.Text

def hexValue? (c : Char) : Option Nat :=
  if '0' ≤ c ∧ c ≤ '9' then some (c.toNat - '0'.toNat)
  else if 'a' ≤ c ∧ c ≤ 'f' then some (c.toNat - 'a'.toNat + 10)
  else if 'A' ≤ c ∧ c ≤ 'F' then some (c.toNat - 'A'.toNat + 10)
  else none

/-- The number that the first `width` characters spell, when there are so many and all are
digits. -/
def hexNumber? (width : Nat) (cs : List Char) : Option Nat :=
  let ds := cs.take width
  if ds.length = width then ds.foldlM (fun n c => (hexValue? c).map (n * 16 + ·)) 0 else none

def hexDigit (n : Nat) : Char := Nat.digitChar n

def hexDigits (n : Nat) : List Char := Nat.toDigits 16 n

end MissionTracking.Text
