import MissionTracking.Time.Instant

/-!
Statements over the table of mission runs, built from columns and bound values. The text of a
statement holds no value: each bound value leaves a numbered placeholder, and the values are listed
in the order of the placeholders.
-/
namespace MissionTracking.Sql

inductive Column where
  | id
  | externalMissionId
  | missionId
  | name
  | status
  | statusRank
  | description
  | statusReason
  | comment
  | assetCode
  | areaName
  | robotId
  | robotName
  | robotModelType
  | desiredStartTime
  | startTime
  | endTime
  | estimatedDuration
  | payload
deriving DecidableEq, Repr

namespace Column

def text : Column → String
  | .id => "id"
  | .externalMissionId => "external_mission_id"
  | .missionId => "mission_id"
  | .name => "name"
  | .status => "status"
  | .statusRank => "status_rank"
  | .description => "description"
  | .statusReason => "status_reason"
  | .comment => "comment"
  | .assetCode => "asset_code"
  | .areaName => "area_name"
  | .robotId => "robot_id"
  | .robotName => "robot_name"
  | .robotModelType => "robot_model_type"
  | .desiredStartTime => "desired_start_time"
  | .startTime => "start_time"
  | .endTime => "end_time"
  | .estimatedDuration => "estimated_duration"
  | .payload => "payload"

/-- Columns that hold text; they are compared byte by byte, whatever the locale. -/
def isText : Column → Bool
  | .statusRank | .desiredStartTime | .startTime | .endTime | .estimatedDuration | .payload => false
  | _ => true

end Column

inductive Value where
  | text (value : String)
  | time (value : Instant)
  | number (value : Int64)
deriving DecidableEq

inductive Condition where
  | equals (column : Column) (value : String)
  | equalsFolded (column : Column) (value : String)
  | containsFolded (column : Column) (value : String)
  | someTagContains (value : String)
  /-- Between two bounds; an unset value passes when `nullable`. -/
  | within (column : Column) (nullable : Bool) (min max : Option Instant)
deriving DecidableEq

structure OrderTerm where
  column : Column
  ascending : Bool
deriving DecidableEq, Repr

inductive Projection where
  | payload
  | count
deriving DecidableEq, Repr

structure Paging where
  order : List OrderTerm
  limit : Int64
  offset : Int64
deriving DecidableEq

structure Statement where
  projection : Projection
  conditions : List Condition
  paging : Option Paging
deriving DecidableEq

/-- A piece of a statement: fixed text, or the place of a value. -/
inductive Piece where
  | text (text : String)
  | bind (value : Value)
deriving DecidableEq

def folded (column : Column) : String := "lower(" ++ column.text ++ " COLLATE \"C\")"

namespace Condition

/-- The comparisons of a window, joined by `AND`; nothing when it has no bounds. -/
def bounds (column : Column) : Option Instant → Option Instant → List Piece
  | none, none => []
  | some lo, none => [.text (column.text ++ " >= "), .bind (.time lo)]
  | none, some hi => [.text (column.text ++ " <= "), .bind (.time hi)]
  | some lo, some hi =>
    [.text (column.text ++ " >= "), .bind (.time lo), .text " AND ", .text (column.text ++ " <= "),
      .bind (.time hi)]

def pieces : Condition → List Piece
  | .equals column value => [.text (column.text ++ " = "), .bind (.text value)]
  | .equalsFolded column value => [.text (folded column ++ " = "), .bind (.text value)]
  | .containsFolded column value =>
    [.text ("strpos(" ++ folded column ++ ", "), .bind (.text value), .text ") > 0"]
  | .someTagContains value =>
    [.text ("EXISTS (SELECT 1 FROM jsonb_array_elements(payload->'tasks') AS task " ++
      "WHERE strpos(lower((task->>'tagId') COLLATE \"C\"), "), .bind (.text value), .text ") > 0)"]
  | .within column true min max =>
    .text ("(" ++ column.text ++ " IS NULL OR (") :: (bounds column min max ++ [.text "))"])
  | .within column false min max => .text "(" :: (bounds column min max ++ [.text ")"])

end Condition

namespace OrderTerm

def text (t : OrderTerm) : String :=
  t.column.text ++ (if t.column.isText then " COLLATE \"C\"" else "") ++
    (if t.ascending then " ASC NULLS FIRST" else " DESC NULLS LAST")

end OrderTerm

namespace Statement

def head : Projection → String
  | .payload => "SELECT payload FROM mission_runs"
  | .count => "SELECT COUNT(*) FROM mission_runs"

def whereClause : List Condition → List Piece
  | [] => []
  | c :: cs => .text " WHERE " :: (c.pieces ++ cs.flatMap fun c => .text " AND " :: c.pieces)

def pagingClause (p : Paging) : List Piece :=
  .text " ORDER BY " :: (p.order.map fun t => Piece.text (t.text ++ ", ")) ++
    [.text "id COLLATE \"C\" ASC", .text " LIMIT ", .bind (.number p.limit), .text " OFFSET ",
      .bind (.number p.offset)]

def pieces (s : Statement) : List Piece :=
  .text (head s.projection) :: whereClause s.conditions ++
    match s.paging with
    | some p => pagingClause p
    | none => []

/-- The text of pieces whose first value has number `next`. -/
def numbered (next : Nat) : List Piece → String
  | [] => ""
  | .text t :: ps => t ++ numbered next ps
  | .bind _ :: ps => s!"${next}" ++ numbered (next + 1) ps

def text (s : Statement) : String := numbered 1 s.pieces

def values (s : Statement) : List Value :=
  s.pieces.filterMap fun
    | .bind v => some v
    | .text _ => none

end Statement
end MissionTracking.Sql
