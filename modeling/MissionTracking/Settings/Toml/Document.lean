import MissionTracking.Settings.Toml.Value

/-!
Whole TOML documents: keys with their values, and headers that say which table the keys after them
belong to. A table or a key that is given twice is an error, as is any statement of another form.
-/
namespace MissionTracking.Toml

inductive Statement where
  | header (path : List String)
  | next (path : List String)
  | setting (path : List String) (value : Node)

def lineEnd? (cs : List Char) : Option (List Char) :=
  match dropComment (dropSpaces cs) with
  | [] => some []
  | c :: cs => if c = '\n' then some cs else none

def statement? : List Char → Option (Statement × List Char)
  | '[' :: '[' :: cs => do
    let (path, rest) ← key? (dropSpaces cs)
    let rest ← mark? ']' rest
    let rest ← mark? ']' rest
    some (.next path, rest)
  | '[' :: cs => do
    let (path, rest) ← key? (dropSpaces cs)
    let rest ← mark? ']' rest
    some (.header path, rest)
  | cs => do
    let (path, rest) ← key? cs
    let rest ← mark? '=' rest
    let (value, rest) ← value? cs.length 0 (dropSpaces rest)
    some (.setting path value, rest)

def statements? : Nat → List Char → Option (List Statement)
  | 0, _ => none
  | fuel + 1, cs =>
    match dropTrivia cs.length cs with
    | [] => some []
    | cs => do
      let (statement, rest) ← statement? cs
      let rest ← lineEnd? rest
      (statements? fuel rest).map (statement :: ·)

structure Draft where
  members : Members
  current : List String

namespace Draft

def add? (d : Draft) : Statement → Option Draft
  | .header path =>
    (Members.update .implied (fun _ => Members.openTable? (path.getLastD ""))
      path.dropLast .explicit
      d.members).map fun members => ⟨members, path⟩
  | .next path =>
    (Members.update .implied (fun _ => Members.openNext? (path.getLastD "")) path.dropLast .explicit
      d.members).map fun members => ⟨members, path⟩
  | .setting path value =>
    (Members.update .implied (Members.set? path.dropLast (path.getLastD "") value)
      d.current .explicit
      d.members).map fun members => { d with members }

end Draft

/-- A carriage return before a line feed belongs to the end of the line. -/
def withLineFeeds : List Char → List Char
  | '\r' :: '\n' :: cs => '\n' :: withLineFeeds cs
  | c :: cs => c :: withLineFeeds cs
  | [] => []

def withoutMark : List Char → List Char
  | '\uFEFF' :: cs => cs
  | cs => cs

def document? (cs : List Char) : Option Members := do
  let cs := withLineFeeds (withoutMark cs)
  let statements ← statements? (cs.length + 1) cs
  let draft ← statements.foldlM Draft.add? ⟨[], []⟩
  some draft.members

end MissionTracking.Toml
