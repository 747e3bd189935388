import MissionTracking.Settings.Scalar

/-!
Tables of a TOML document while it is read. A table remembers how it came about, because that
decides what may be added to it: a header opens a table once, though tables on the way to it may be
opened later, keys with dots add only to tables that such keys made, and nothing is added to a table
that is a value. In a series of tables the last one is meant.
-/
namespace MissionTracking.Toml

inductive Origin where
  /-- By a header. -/
  | explicit
  /-- As a value. -/
  | closed
  /-- On the way to another header. -/
  | implied
  /-- By a key with dots. -/
  | dotted
deriving DecidableEq, Repr

inductive Node where
  | leaf (value : Scalar)
  | list (items : List Node)
  | table (origin : Origin) (members : List (String × Node))
  | series (tables : List Node)

abbrev Members := List (String × Node)

namespace Members

def put (ms : Members) (key : String) (node : Node) : Members :=
  if ms.any (·.1 == key) then ms.map fun m => if m.1 == key then (key, node) else m
  else ms ++ [(key, node)]

/-- A path that makes its tables by `origin` may pass through a table. -/
def isOpen (origin own : Origin) : Bool := own != .closed && (origin != .dotted || own != .explicit)

/-- Changes the table at a path, where `origin` is that of tables that are made on the way. -/
def update (origin : Origin) (change : Origin → Members → Option Members) :
    List String → Origin → Members → Option Members
  | [], own, ms => change own ms
  | key :: path, _, ms =>
    match ms.lookup key with
    | none =>
      (update origin change path origin []).map fun inner => ms.put key (.table origin inner)
    | some (.table own inner) =>
      if isOpen origin own then
        (update origin change path own inner).map fun inner => ms.put key (.table own inner)
      else none
    | some (.series tables) =>
      match tables.getLast? with
      | some (.table own inner) =>
        (update origin change path own inner).map fun inner =>
          ms.put key (.series (tables.dropLast ++ [.table own inner]))
      | _ => none
    | some _ => none

def set? (path : List String) (key : String) (node : Node) : Origin → Members → Option Members :=
  update .dotted (fun own ms =>
    if (own = .dotted) = path.isEmpty ∨ ms.any (·.1 == key) then none
    else some (ms ++ [(key, node)])) path

def openTable? (key : String) (ms : Members) : Option Members :=
  match ms.lookup key with
  | none => some (ms ++ [(key, .table .explicit [])])
  | some (.table .implied inner) => some (ms.put key (.table .explicit inner))
  | some _ => none

def openNext? (key : String) (ms : Members) : Option Members :=
  match ms.lookup key with
  | none => some (ms ++ [(key, .series [.table .explicit []])])
  | some (.series tables) => some (ms.put key (.series (tables ++ [.table .explicit []])))
  | some _ => none

end Members
end MissionTracking.Toml
