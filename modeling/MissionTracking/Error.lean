import MissionTracking.Run.Basic

/-!
Everything that can be refused, each cause with the data its message needs. Errors of validation are
the caller's; only errors of the database are the infrastructure's.
-/
namespace MissionTracking

inductive Entity where
  | missionRun
  | missionTask
  | inspection
deriving DecidableEq, Repr

def Entity.text : Entity → String
  | .missionRun => "MissionRun"
  | .missionTask => "MissionTask"
  | .inspection => "Inspection"

inductive RunFault where
  | blankName
  | blankAssetCode
  | textTooLong (field : String) (bytes : Nat)
  | notPending (status : MissionStatus)
  | orderNotIncreasing (found after : UInt32)
  | taskBegun (order : UInt32) (status : TaskStatus)
  | inspectionBegun (id : String) (order : UInt32) (status : InspectionStatus)
  | duplicateTaskId (externalId : String)
  | duplicateStepId (externalId : String) (order : UInt32)
  | noTask (order : UInt32)
  | noInspection (id : String) (order : UInt32)
  | idInUse (id : String)
  | externalIdInUse (externalId : String)
deriving DecidableEq, Repr

/-- Names and free texts have at most this many bytes. -/
def maxTextBytes : Nat := 1024

def RunFault.message : RunFault → String
  | .blankName => "name must not be blank"
  | .blankAssetCode => "asset code must not be blank"
  | .textTooLong field bytes => s!"{field} is too long: {bytes} bytes (max: {maxTextBytes})"
  | .notPending status => s!"a new mission run must be pending, got {status.text}"
  | .orderNotIncreasing found after =>
    s!"task order must be strictly increasing, found {found} after {after}"
  | .taskBegun order status => s!"task {order} must be not_started, got {status.text}"
  | .inspectionBegun id order status =>
    s!"inspection {id} of task {order} must be not_started, got {status.text}"
  | .duplicateTaskId externalId => s!"duplicate external task id '{externalId}'"
  | .duplicateStepId externalId order =>
    s!"duplicate external step id '{externalId}' in task {order}"
  | .noTask order => s!"no task with order {order}"
  | .noInspection id order => s!"no inspection '{id}' in task {order}"
  | .idInUse id => s!"id '{id}' is already in use"
  | .externalIdInUse externalId => s!"external mission id '{externalId}' is already in use"

inductive WindowFault where
  | notRepresentable (second : Int64)
  | inverted (min max : Instant)
deriving DecidableEq

def WindowFault.message : WindowFault → String
  | .notRepresentable second => s!"{second} is outside the representable time range"
  | .inverted min max => s!"minimum {min.readable} is after maximum {max.readable}"

inductive ValidationError where
  | sortField (field : String)
  | pageNumber (number : UInt32)
  | pageSize (size : UInt32)
  | filterValue (field : String) (fault : WindowFault)
  | missionRun (fault : RunFault)
  | externalIdAssigned (entity : Entity) (existing requested : String)
deriving DecidableEq

def ValidationError.message : ValidationError → String
  | .sortField field => s!"MissionRun has no property '{field}' for ordering"
  | .pageNumber number => s!"Page number must be at least 1, got {number}"
  | .pageSize size => s!"Page size must be at least 1, got {size}"
  | .filterValue field fault => s!"Invalid value for filter '{field}': {fault.message}"
  | .missionRun fault => s!"Invalid mission run: {fault.message}"
  | .externalIdAssigned entity existing requested =>
    s!"{entity.text} already has external id '{existing}', refusing to assign '{requested}'"

inductive DatabaseFault where
  | malformedAddress
  | unreachable
deriving DecidableEq, Repr

def DatabaseFault.message : DatabaseFault → String
  | .malformedAddress => "the address is malformed"
  | .unreachable => "no server answers at the address"

inductive TrackingError where
  | notFound (id : String)
  | pageOutOfRange (requested totalPages : UInt32)
  | validation (error : ValidationError)
  | unknownStatus (level : Level) (value : String)
  | database (fault : DatabaseFault)
deriving DecidableEq

namespace TrackingError

def message : TrackingError → String
  | .notFound id => s!"MissionRun with id '{id}' was not found"
  | .pageOutOfRange requested totalPages =>
    s!"Page {requested} is out of range, there are {totalPages} pages"
  | .validation error => s!"Validation error: {error.message}"
  | .unknownStatus level value => s!"Unknown {level.text} status '{value}'"
  | .database fault => s!"Database error: {fault.message}"

def isInfrastructure : TrackingError → Bool
  | .database _ => true
  | _ => false

def isClientError (e : TrackingError) : Bool := !e.isInfrastructure

end TrackingError
end MissionTracking
