import MissionTracking.Json.Token

/-!
Writing a JSON text without white space: the tokens of a value, each in its one written form. In a
string only the quote, the backslash and control characters are escaped, five of the latter by a
letter of their own and the others by their number. What has no content is written as the escape of
half of a pair.
-/
namespace MissionTracking.Json
open Text

mutual

def tokens : Json → List Token
  | .string s => [.string s]
  | .unpaired => [.unpaired]
  | .array [] => [.openArray, .closeArray]
  | .array (j :: js) => .openArray :: (tokens j ++ itemTokens js)
  | .object [] => [.openObject, .closeObject]
  | .object ((k, j) :: ms) => .openObject :: .string k :: .colon :: (tokens j ++ memberTokens ms)
  | j => [.scalar j]

def itemTokens : List Json → List Token
  | [] => [.closeArray]
  | j :: js => .comma :: (tokens j ++ itemTokens js)

def memberTokens : List (String × Json) → List Token
  | [] => [.closeObject]
  | (k, j) :: ms => .comma :: .string k :: .colon :: (tokens j ++ memberTokens ms)

end

def escape : Char → List Char
  | '"' => ['\\', '"']
  | '\\' => ['\\', '\\']
  | '\x08' => ['\\', 'b']
  | '\t' => ['\\', 't']
  | '\n' => ['\\', 'n']
  | '\x0c' => ['\\', 'f']
  | '\r' => ['\\', 'r']
  | c =>
    if c.toNat < 0x20 then ['\\', 'u', '0', '0', hexDigit (c.toNat / 16), hexDigit (c.toNat % 16)]
    else [c]

def scalarText : Json → List Char
  | .bool true => ['t', 'r', 'u', 'e']
  | .bool false => ['f', 'a', 'l', 's', 'e']
  | .int (.ofNat n) => digits n
  | .int (.negSucc n) => '-' :: digits (n + 1)
  | .real literal => literal.toList
  | _ => ['n', 'u', 'l', 'l']

def Token.text : Token → List Char
  | .openObject => ['{']
  | .closeObject => ['}']
  | .openArray => ['[']
  | .closeArray => [']']
  | .colon => [':']
  | .comma => [',']
  | .string s => '"' :: (s.toList.flatMap escape ++ ['"'])
  | .unpaired => ['"', '\\', 'u', 'd', '8', '0', '0', '"']
  | .scalar j => scalarText j

def text (j : Json) : String := String.ofList ((tokens j).flatMap Token.text)

end MissionTracking.Json
