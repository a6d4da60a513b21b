import Homeflow.Commands.Models

namespace Homeflow

-- The authenticated user and the client device a request came from.
structure Principal where
  userId : Uuid
  clientId : Uuid
  displayName : String
deriving DecidableEq

-- The domain errors the services raise, with the detail each carries when it is
-- not its class's default.
inductive HomeFlowError where
  | actionAuthorizationRequired
  | deviceNotFound
  | commandNotFound
  | scheduleNotFound
  | capabilityNotSupported (detail : Option String := none)
  | invalidParameters
  | noVerifiedRange
  | outsideRange (minimum maximum : PyFloat)
  | timerOutOfRange (maximum : ℚ)
  | deviceUnavailable (detail : Option String := none)
deriving DecidableEq

def HomeFlowError.problemType : HomeFlowError → String
  | .actionAuthorizationRequired => "action_authorization_required"
  | .deviceNotFound => "device_not_found"
  | .commandNotFound => "command_not_found"
  | .scheduleNotFound => "schedule_not_found"
  | .capabilityNotSupported _ => "capability_not_supported"
  | .invalidParameters => "invalid_parameters"
  | .noVerifiedRange | .outsideRange _ _ | .timerOutOfRange _ => "parameter_out_of_range"
  | .deviceUnavailable _ => "device_unavailable"

-- The text a client is shown. How a float is printed is left to the caller.
def HomeFlowError.detail (format : PyFloat → String) : HomeFlowError → String
  | .actionAuthorizationRequired =>
      "This action requires a fresh device-owner authorisation, which this " ++
        "deployment does not provide yet."
  | .deviceNotFound => "No such device."
  | .commandNotFound => "No such command."
  | .scheduleNotFound => "No such timer."
  | .capabilityNotSupported detail => detail.getD "The device does not support this action."
  | .invalidParameters => "The command parameters are invalid."
  | .noVerifiedRange =>
      "The device has no verified temperature range, so setpoints are refused."
  | .outsideRange minimum maximum =>
      "Target temperature must be between " ++ format minimum ++ " and " ++ format maximum ++
        " degrees Celsius."
  | .timerOutOfRange maximum =>
      "A timer must be between " ++ format (.finite (1 / 2)) ++ " and " ++
        format (.finite maximum) ++ " hours, in steps of " ++ format (.finite (1 / 2)) ++ "."
  | .deviceUnavailable detail => detail.getD "The device is currently offline."

-- An audit record. The identifier each entry draws for itself is never read.
structure AuditEntry where
  occurredAt : Time
  event : String
  actorUserId : Option Uuid := none
  actorClientId : Option Uuid := none
  deviceId : Option Uuid := none
  commandId : Option Uuid := none
  action : Option Action := none
  riskClass : Option RiskClass := none
  outcome : Option String := none
  correlationId : Option String := none
  context : List (String × Json) := []

inductive EventType where
  | deviceDiscovered | deviceAvailabilityChanged | deviceStateChanged
  | commandRequested | commandStarted | commandSucceeded | commandFailed | commandTimedOut
  | doorbellPressed | motionDetected
  | applianceProgramStarted | applianceProgramFinished
  | poolTemperatureChanged | poolTargetTemperatureChanged
  | thermostatStateChanged
  | scheduleArmed | scheduleSettled
deriving DecidableEq, Repr

-- A normalised event. In a payload an identifier stands for its text.
structure DomainEvent where
  type : EventType
  occurredAt : Time
  deviceId : Option Uuid := none
  commandId : Option Uuid := none
  correlationId : Option String := none
  payload : List (String × Json) := []

-- One call of the command submitter.
structure SubmitCall where
  principal : Principal
  deviceId : Uuid
  action : Action
  parameters : List (String × Json)
  correlationId : String

-- How that call ends: with a command, with one of the domain's errors, or with
-- any other exception.
inductive SubmitOutcome where
  | returned (command : Command)
  | refused (error : HomeFlowError)
  | raised

end Homeflow
