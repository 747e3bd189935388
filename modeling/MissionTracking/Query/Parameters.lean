import MissionTracking.Status

/-!
The parameters of a listing as they arrive. All are optional; the bounds of the time windows are
seconds since 1970 and belong to the window.
-/
namespace MissionTracking
open Json

structure QueryParameters where
  status : Option MissionStatus := none
  robotId : Option String := none
  nameSearch : Option String := none
  robotNameSearch : Option String := none
  tagSearch : Option String := none
  area : Option String := none
  assetCode : Option String := none
  robotModel : Option RobotModel := none
  minStartTime : Option Int64 := none
  maxStartTime : Option Int64 := none
  minEndTime : Option Int64 := none
  maxEndTime : Option Int64 := none
  minDesiredStartTime : Option Int64 := none
  maxDesiredStartTime : Option Int64 := none
  pageNumber : Option UInt32 := none
  pageSize : Option UInt32 := none
  orderBy : Option String := none
deriving DecidableEq

namespace QueryParameters

def fields : List String :=
  ["status", "robotId", "nameSearch", "robotNameSearch", "tagSearch", "area", "assetCode",
    "robotModelType", "minStartTime", "maxStartTime", "minEndTime", "maxEndTime",
    "minDesiredStartTime", "maxDesiredStartTime", "pageNumber", "pageSize", "orderBy"]

def withPage (p : QueryParameters) (number size : UInt32) : QueryParameters :=
  { p with pageNumber := some number, pageSize := some size }

def withOrder (p : QueryParameters) (orderBy : String) : QueryParameters :=
  { p with orderBy := some orderBy }

def ofJson? (j : Json) : Option QueryParameters := do
  let r ← j.record? fields
  let status ← r.optional "status" MissionStatus.ofJson?
  let robotId ← r.optional "robotId" string?
  let nameSearch ← r.optional "nameSearch" string?
  let robotNameSearch ← r.optional "robotNameSearch" string?
  let tagSearch ← r.optional "tagSearch" string?
  let area ← r.optional "area" string?
  let assetCode ← r.optional "assetCode" string?
  let robotModel ← r.optional "robotModelType" RobotModel.ofJson?
  let minStartTime ← r.optional "minStartTime" int64?
  let maxStartTime ← r.optional "maxStartTime" int64?
  let minEndTime ← r.optional "minEndTime" int64?
  let maxEndTime ← r.optional "maxEndTime" int64?
  let minDesiredStartTime ← r.optional "minDesiredStartTime" int64?
  let maxDesiredStartTime ← r.optional "maxDesiredStartTime" int64?
  let pageNumber ← r.optional "pageNumber" uint32?
  let pageSize ← r.optional "pageSize" uint32?
  let orderBy ← r.optional "orderBy" string?
  some { status, robotId, nameSearch, robotNameSearch, tagSearch, area, assetCode, robotModel,
         minStartTime, maxStartTime, minEndTime, maxEndTime, minDesiredStartTime,
         maxDesiredStartTime, pageNumber, pageSize, orderBy }

def toJson (p : QueryParameters) : Json :=
  .object [("status", ofOption MissionStatus.toJson p.status),
    ("robotId", ofOption .string p.robotId), ("nameSearch", ofOption .string p.nameSearch),
    ("robotNameSearch", ofOption .string p.robotNameSearch),
    ("tagSearch", ofOption .string p.tagSearch), ("area", ofOption .string p.area),
    ("assetCode", ofOption .string p.assetCode),
    ("robotModelType", ofOption RobotModel.toJson p.robotModel),
    ("minStartTime", ofOption ofInt64 p.minStartTime),
    ("maxStartTime", ofOption ofInt64 p.maxStartTime),
    ("minEndTime", ofOption ofInt64 p.minEndTime), ("maxEndTime", ofOption ofInt64 p.maxEndTime),
    ("minDesiredStartTime", ofOption ofInt64 p.minDesiredStartTime),
    ("maxDesiredStartTime", ofOption ofInt64 p.maxDesiredStartTime),
    ("pageNumber", ofOption ofUInt32 p.pageNumber), ("pageSize", ofOption ofUInt32 p.pageSize),
    ("orderBy", ofOption .string p.orderBy)]

end QueryParameters
end MissionTracking
