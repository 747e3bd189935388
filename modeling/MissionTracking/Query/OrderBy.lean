import MissionTracking.Query.Sort
import MissionTracking.Error
import MissionTracking.Text.Lower

/-!
Sort specifications as text: tokens between commas, each the name of a field and perhaps a
direction. Field names are found whatever their case and wherever they have underscores; only names
of the closed list of fields are found. Blank tokens are skipped.
-/
namespace MissionTracking
open Text

namespace SortField

def spelling (name : List Char) : List Char := (name.filter (· != '_')).flatMap lowerChar

def lookup? (name : List Char) : Option SortField :=
  all.find? fun f => lower f.text.toList == spelling name

end SortField

namespace SortSpec

/-- A token is descending when its lower case ends in a space and `desc`. -/
def directionOf (token : List Char) : SortDirection :=
  if [' ', 'd', 'e', 's', 'c'].isSuffixOf (lower token) then .descending else .ascending

def keyOf (token : List Char) : Except ValidationError SortKey :=
  match SortField.lookup? (firstWord token) with
  | some field => .ok ⟨field, directionOf token⟩
  | none => .error (.sortField (String.ofList (firstWord token)))

def tokensOf (orderBy : List Char) : List (List Char) :=
  ((orderBy.splitOn ',').map trim).filter fun token => !token.isEmpty

def parse : Option String → Except ValidationError SortSpec
  | none => .ok byName
  | some orderBy => ((tokensOf orderBy.toList).mapM keyOf).map ofKeys

end SortSpec
end MissionTracking
