import MissionTracking.Json.Holding

/-!
Reading records, enumerations and bounded integers from JSON values. A record is an object, or an
array that lists its fields in the order of their declaration. Members that are no field are
ignored, a field that is given twice is an error. Every reader answers with a value or not at all.
-/
namespace MissionTracking.Json

def string? : Json → Option String
  | .string s => some s
  | _ => none

def bool? : Json → Option Bool
  | .bool b => some b
  | _ => none

def intIn? (lo hi : Int) : Json → Option Int
  | .int n => if lo ≤ n ∧ n < hi then some n else none
  | _ => none

def uint32? (j : Json) : Option UInt32 := (j.intIn? 0 4294967296).map fun n => UInt32.ofNat n.toNat

def uint64? (j : Json) : Option UInt64 :=
  (j.intIn? 0 18446744073709551616).map fun n => UInt64.ofNat n.toNat

def int64? (j : Json) : Option Int64 := 
  (j.intIn? (-9223372036854775808) 9223372036854775808).map Int64.ofInt

def ofUInt32 (n : UInt32) : Json := .int n.toNat

def ofUInt64 (n : UInt64) : Json := .int n.toNat

def ofInt64 (n : Int64) : Json := .int n.toInt

def listOf? (read : Json → Option α) : Json → Option (List α)
  | .array items => items.mapM read
  | _ => none

def optionOf? (read : Json → Option α) : Json → Option (Option α)
  | .null => some none
  | j => (read j).map some

/-- One of finitely many values by its name, as a string or as the only key of an object with value
null. -/
def oneOf? (all : List α) (name : α → String) : Json → Option α
  | .string s => all.find? fun a => name a == s
  | .object [(s, .null)] => all.find? fun a => name a == s
  | _ => none

abbrev Record := List (String × Json)

def record? (fields : List String) : Json → Option Record
  | .object members =>
    if fields.all fun f => decide ((members.filter fun m => m.1 == f).length ≤ 1) then
      some members else none
  | .array items => if items.length ≤ fields.length then some (fields.zip items) else none
  | _ => none

namespace Record

def get? (r : Record) (field : String) : Option Json := r.lookup field

def required (r : Record) (field : String) (read : Json → Option α) : Option α :=
  (r.get? field).bind read

def optional (r : Record) (field : String) (read : Json → Option α) : Option (Option α) :=
  match r.get? field with
  | none => some none
  | some j => optionOf? read j

def withDefault (r : Record) (field : String) (default : α) (read : Json → Option α) : Option α :=
  match r.get? field with
  | none => some default
  | some j => read j

end Record

/-- A value that names its own variant: the tag and the value without it. In an array the tag comes
first. The value is held as a whole, `above` containers deep in its document. -/
def tagged? (tag : String) (above : Nat) (j : Json) : Option (String × Json) :=
  if j.isHeld (maxDepth - above) then
    match j with
    | .object members =>
      match members.filter fun m => m.1 == tag with
      | [(_, .string variant)] => some (variant, .object (members.filter fun m => m.1 != tag))
      | _ => none
    | .array (.string variant :: items) => some (variant, .array items)
    | _ => none
  else none

end MissionTracking.Json
