import Homeflow.Bestway.Datapoints
import Homeflow.Integrations.Base

namespace Homeflow.Bestway

def PROVIDER_NAME : String := "bestway"
def DEVICE_ID : String := "airjet"
def DEFAULT_CONFIRM_ATTEMPTS : Nat := 6

def airjetRef : ProviderDeviceRef := ⟨PROVIDER_NAME, DEVICE_ID⟩

-- What the client raises: that the controller cannot be reached, that it does not
-- speak the protocol (a kind of the former), or a ProtocolError of this side's own.
inductive ClientError where
  | unavailable | misbehaved | protocol
deriving DecidableEq, Repr

structure BestwayProvider where
  profile : DatapointProfile
  confirmAttempts : Nat := DEFAULT_CONFIRM_ATTEMPTS
  availability : Availability := .unknown

namespace BestwayProvider

variable (provider : BestwayProvider)

def stateOf (decoded : Datapoint → Option Value) : DeviceState :=
  let fahrenheit : Bool := (decoded .unitIsFahrenheit).any Value.truth
  let temperature (datapoint : Datapoint) : Option PyFloat :=
    (decoded datapoint).map fun raw => toCelsius raw.number fahrenheit
  let flag (datapoint : Datapoint) : Option Bool := (decoded datapoint).map Value.truth
  { currentTemperatureC := temperature .currentTemperature
    targetTemperatureC := temperature .targetTemperature
    heater := flag .heater
    filterPump := flag .filterPump
    bubbles := flag .bubbles
    controlPanelLock := flag .controlPanelLock }

def snapshot (decoded : Datapoint → Option Value) (now : Time) : ProviderState :=
  { state := stateOf decoded, availability := .online, observedAt := now }

def offlineSnapshot (now : Time) : ProviderState :=
  { state := {}, availability := .offline, observedAt := now }

-- A read block that the layout does not fit counts as an unreachable controller.
def readPayload (reading : Except ClientError Bytes) :
    BestwayProvider × Except ClientError (Bytes × (Datapoint → Option Value)) :=
  match reading with
  | .error error => (provider, .error error)
  | .ok payload =>
      match provider.profile.decode payload with
      | .error _ => (provider, .error .unavailable)
      | .ok decoded => ({ provider with availability := .online }, .ok (payload, decoded))

-- One round of subscribe after its sleep: the next previous payload, and the snapshot
-- it yields. None: the exception ends the generator.
def poll (previous : Option Bytes) (reading : Except ClientError Bytes) (now : Time) :
    BestwayProvider × Option (Option Bytes × Option ProviderState) :=
  match provider.readPayload reading with
  | (provider, .error .protocol) => (provider, none)
  | (provider, .error _) =>
      if provider.availability ≠ .offline then
        ({ provider with availability := .offline }, some (previous, some (offlineSnapshot now)))
      else (provider, some (previous, none))
  | (provider, .ok (payload, decoded)) =>
      if some payload ≠ previous then
        (provider, some (some payload, some (snapshot decoded now)))
      else (provider, some (previous, none))

end BestwayProvider

end Homeflow.Bestway
