import MissionTracking.Text.Hexadecimal
import MissionTracking.Text.Printable

/-!
A text between quotes on one line. The quote and the backslash are written after a backslash, as are
tab, line feed, carriage return and NUL by a letter; any other character that cannot be shown is
written as its code point.
-/
namespace MissionTracking.Text

def codePoint (c : Char) : List Char := '\\' :: 'u' :: '\x7b' :: (hexDigits c.toNat ++ ['\x7d'])

def quotedChar (c : Char) : List Char :=
  if c = '"' ∨ c = '\\' then ['\\', c]
  else if c = '\t' then ['\\', 't']
  else if c = '\n' then ['\\', 'n']
  else if c = '\r' then ['\\', 'r']
  else if c.toNat = 0 then ['\\', '0']
  else if isShown c then [c]
  else codePoint c

def quoted (s : String) : String := String.ofList ('"' :: (s.toList.flatMap quotedChar ++ ['"']))

end MissionTracking.Text
