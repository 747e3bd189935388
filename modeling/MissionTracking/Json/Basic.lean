/-!
JSON values. Objects keep their members in the order of the text and keep repeated keys, since a
record that names a field twice is refused. A number without fraction and exponent is an integer;
any other number is kept as it is spelled, because no field of this library takes it. Members that
are no field only need the form of a value, so there is also a value for what has the form but no
content.
-/
namespace MissionTracking

inductive Json where
  | null
  | bool (value : Bool)
  | int (value : Int)
  | real (literal : String)
  | string (value : String)
  | array (items : List Json)
  | object (members : List (String × Json))
  /-- A string with half of a surrogate pair, or an object with such a key. -/
  | unpaired
deriving Inhabited, BEq, Repr

namespace Json

def nat (n : Nat) : Json := .int n

def ofOption (write : α → Json) : Option α → Json
  | none => .null
  | some a => write a

def ofList (write : α → Json) (as : List α) : Json := .array (as.map write)

end Json
end MissionTracking
