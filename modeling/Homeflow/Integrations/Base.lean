import Homeflow.Commands.Models

namespace Homeflow

-- The internal handle of a device at a provider. It is its own key.
structure ProviderDeviceRef where
  provider : String
  providerDeviceId : String
deriving DecidableEq

structure ProviderDevice where
  ref : ProviderDeviceRef
  suggestedName : String
  kind : DeviceKind
  capabilities : List Capability
  roomHint : Option String := none
  constraints : DeviceConstraints := {}

structure ProviderState where
  state : DeviceState
  availability : Availability
  observedAt : Time

structure ProviderCommand where
  action : Action
  params : CommandParams
deriving DecidableEq

inductive CommandOutcome where
  | applied | rejected
  -- The adapter cannot tell whether the device applied the command.
  | unknown
deriving DecidableEq, Repr

structure ProviderCommandResult where
  outcome : CommandOutcome
  state : Option ProviderState := none
  failureCode : Option String := none

-- What an adapter raises: a failure of its own with its code, a timeout, or
-- anything else. The cancellation of the calling task is not one of these.
inductive ProviderException where
  | providerError (failureCode : String)
  | timeoutError
  | other
deriving DecidableEq

def PROVIDER_ERROR : String := "provider_error"
def PROVIDER_UNAVAILABLE : String := "device_unavailable"
def PROVIDER_REJECTED : String := "command_rejected"

-- How a call of the adapter ends under the deadline of the command service.
inductive AdapterOutcome (α : Type) where
  | returned (value : α)
  | raised (error : ProviderException)
  | deadline

-- What the caller of asyncio.timeout catches as TimeoutError.
def AdapterOutcome.timedOut {α : Type} : AdapterOutcome α → Bool
  | .raised .timeoutError | .deadline => true
  | _ => false

end Homeflow
