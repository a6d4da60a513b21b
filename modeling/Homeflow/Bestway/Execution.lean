import Homeflow.Bestway.Provider

namespace Homeflow.Bestway

def ACTION_DATAPOINTS : Action → Option Datapoint
  | .setTargetTemperature => some .targetTemperature
  | .setHeater => some .heater
  | .setFilter => some .filterPump
  | .setBubbles => some .bubbles
  | .setControlPanelLock => some .controlPanelLock
  | _ => none

-- What the command service sees of an exception of the client.
def ClientError.exception : ClientError → ProviderException
  | .unavailable | .misbehaved => .providerError PROVIDER_UNAVAILABLE
  | .protocol => .other

structure ControlRequest where
  datapoint : Datapoint
  value : Value
  attrFlags : Nat
  attrVals : Bytes

-- A result with the block it was read from, in whatever form the client hands it out.
structure Executed (α : Type) where
  outcome : CommandOutcome
  observed : Option α := none
  failureCode : Option String := none

-- Where a call of execute is suspended.
inductive Execution (α : Type) where
  -- On the read that precedes the write.
  | reading (datapoint : Datapoint) (params : CommandParams)
  -- Before the call of send_control, with the block it modifies.
  | writing (request : ControlRequest) (base : α)
  -- On the drain of the control request.
  | sending (datapoint : Datapoint) (value : Value)
  | confirming (datapoint : Datapoint) (value : Value) (attempt : Nat) (latest : Option α)
  | sleeping (datapoint : Datapoint) (value : Value) (attempt : Nat) (latest : Option α)
  | ended (result : Except ProviderException (Executed α))

def valueFor (profile : DatapointProfile) (decoded : Datapoint → Option Value) :
    CommandParams → Option Value
  | .onOff on => some (.bool on)
  | .targetTemperature celsius =>
      -- A device-facing adapter does not rely on someone else having checked the range.
      if profile.targetTemperatureMinC.le (.finite celsius.val) ∧
          (PyFloat.finite celsius.val).le profile.targetTemperatureMaxC then
        some (.int (fromCelsius celsius.val ((decoded .unitIsFahrenheit).any Value.truth)))
      else none
  | _ => none

-- decode(payload).get(datapoint) == value
def shows (profile : DatapointProfile) (datapoint : Datapoint) (value : Value) (payload : Bytes) :
    Bool :=
  match profile.decode payload with
  | .error _ => false
  | .ok decoded => (decoded datapoint).any value.same

namespace Execution

variable {α : Type} (provider : BestwayProvider) (payload : α → Bytes)

def start (ref : ProviderDeviceRef) (command : ProviderCommand) : Execution α :=
  if ref.provider ≠ PROVIDER_NAME ∨ ref.providerDeviceId ≠ DEVICE_ID then
    .ended (.error (.providerError PROVIDER_UNAVAILABLE))
  else
    match ACTION_DATAPOINTS command.action with
    | none => .ended (.error (.providerError PROVIDER_REJECTED))
    | some datapoint => .reading datapoint command.params

-- The control request is a modification of the block that was just read.
def prepare (datapoint : Datapoint) (params : CommandParams) (base : α) : Execution α :=
  match provider.profile.decode (payload base) with
  | .error _ => .ended (.error ClientError.unavailable.exception)
  | .ok decoded =>
      match valueFor provider.profile decoded params with
      | none => .ended (.error (.providerError PROVIDER_REJECTED))
      | some value =>
          match provider.profile.encodeControl datapoint value (payload base) with
          | .error _ => .ended (.error (.providerError PROVIDER_REJECTED))
          | .ok none => .ended (.error .other)
          | .ok (some (attrFlags, attrVals)) =>
              .writing { datapoint, value, attrFlags, attrVals } base

-- A controller that did not take the change is not reported as if it had.
def conclude (datapoint : Datapoint) (value : Value) : Option α → Execution α
  | none => .ended (.ok { outcome := .unknown, failureCode := some "read_back_failed" })
  | some observed =>
      if shows provider.profile datapoint value (payload observed) then
        .ended (.ok { outcome := .applied, observed := some observed })
      else
        .ended (.ok { outcome := .unknown, observed := some observed
                      failureCode := some "not_confirmed_by_device" })

-- Only the read repeats; the control request never does.
def nextAttempt (datapoint : Datapoint) (value : Value) (attempt : Nat) (latest : Option α) :
    Execution α :=
  if attempt < provider.confirmAttempts then
    if attempt = 0 then .confirming datapoint value attempt latest
    else .sleeping datapoint value attempt latest
  else conclude provider payload datapoint value latest

-- The read it waits for has ended.
def readEnds : Execution α → Except ClientError α → Execution α
  | .reading _ _, .error error => .ended (.error error.exception)
  | .reading datapoint params, .ok base => prepare provider payload datapoint params base
  | .confirming _ _ _ _, .error .protocol => .ended (.error .other)
  | .confirming datapoint value attempt latest, .error _ =>
      nextAttempt provider payload datapoint value (attempt + 1) latest
  | .confirming datapoint value attempt latest, .ok observed =>
      match provider.profile.decode (payload observed) with
      | .error _ => nextAttempt provider payload datapoint value (attempt + 1) latest
      | .ok _ =>
          if shows provider.profile datapoint value (payload observed) then
            conclude provider payload datapoint value (some observed)
          else nextAttempt provider payload datapoint value (attempt + 1) (some observed)
  | execution, _ => execution

-- send_control has raised, before or after the request was written, or has returned.
def sendEnds : Execution α → Except ClientError Unit → Execution α
  | .writing _ _, .error error => .ended (.error error.exception)
  | .sending _ _, .error error => .ended (.error error.exception)
  | .sending datapoint value, .ok () => nextAttempt provider payload datapoint value 0 none
  | execution, _ => execution

def wrote : Execution α → Execution α
  | .writing request _ => .sending request.datapoint request.value
  | execution => execution

def slept : Execution α → Execution α
  | .sleeping datapoint value attempt latest => .confirming datapoint value attempt latest
  | execution => execution

-- Whether it waits for a read of the status block.
def reads : Execution α → Bool
  | .reading _ _ | .confirming _ _ _ _ => true
  | _ => false

end Execution

end Homeflow.Bestway
