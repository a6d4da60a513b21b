import Homeflow.Commands.Policy
import Homeflow.Devices.Service

namespace Homeflow.Commands

-- A command stops being executable this long after submission: two minutes.
def COMMAND_TTL : Time := 120000000
@[irreducible] def MAX_TRACKED_COMMANDS : Nat := 500
@[irreducible] def MAX_DEVICE_LOCKS : Nat := 256

def COMPLETION_EVENTS : CommandStatus → Option EventType
  | .succeeded => some .commandSucceeded
  | .failed => some .commandFailed
  -- An unknown outcome is not a failure: the device may still have acted.
  | .unknown => some .commandTimedOut
  | _ => none

-- The lock objects are told apart by when they were made.
abbrev LockId := Nat

inductive Effect where
  | remembered (command : Command)
  | recorded (entry : AuditEntry)
  | published (event : DomainEvent)
  -- The two calls of the adapter, and how each ended.
  | executed (id : Uuid) (ref : ProviderDeviceRef) (command : ProviderCommand)
  | executeEnded (id : Uuid) (outcome : AdapterOutcome ProviderCommandResult)
  | readBack (id : Uuid) (ref : ProviderDeviceRef)
  | readBackEnded (id : Uuid) (outcome : AdapterOutcome ProviderState)

structure CommandService where
  registry : DeviceRegistry
  -- The names of the wired adapters.
  providers : List String
  commands : OrderedDict Uuid Command := .empty
  locks : OrderedDict Uuid LockId := .empty
  nextLock : LockId := 0
  -- How many clock readings and how many identifiers have been drawn.
  reads : Nat := 0
  ids : Nat := 0
  trace : List Effect := []

namespace CommandService

def get (service : CommandService) (id : Uuid) : Except HomeFlowError Command :=
  match service.commands.get? id with
  | some command => .ok command
  | none => .error .commandNotFound

def emit (service : CommandService) (effect : Effect) : CommandService :=
  { service with trace := service.trace ++ [effect] }

def validate (coercion : Coercion) (action : Action) (rawParameters : List (String × Json)) :
    Except HomeFlowError CommandParams :=
  match (ACTION_SPECS action).paramsModel.validate coercion rawParameters with
  | some params => .ok params
  | none => .error .invalidParameters

-- The device's own verified limits, never a guess.
def checkConstraints (device : Device) : CommandParams → Except HomeFlowError Unit
  | .targetTemperature celsius =>
      match device.constraints.targetTemperatureMinC, device.constraints.targetTemperatureMaxC with
      | some minimum, some maximum =>
          if minimum.le (.finite celsius.val) ∧ (PyFloat.finite celsius.val).le maximum then .ok ()
          else .error (.outsideRange minimum maximum)
      | _, _ => .error .noVerifiedRange
  | _ => .ok ()

-- The oldest records are forgotten first.
def dropOldest : Nat → OrderedDict Uuid Command → OrderedDict Uuid Command
  | 0, table => table
  | excess + 1, table => dropOldest excess table.popFirst

def remember (service : CommandService) (command : Command) : CommandService :=
  let table := (service.commands.set command.id command).moveToEnd command.id
  { service with
    commands := dropOldest (table.length - MAX_TRACKED_COMMANDS) table
    trace := service.trace ++ [.remembered command] }

section Clock

variable (clock : Nat → Time)

def auditDenied (service : CommandService) (call : SubmitCall) (device : Device)
    (reason : String) : CommandService :=
  { service with
    reads := service.reads + 1
    trace := service.trace ++ [.recorded
      { occurredAt := clock service.reads, event := "command.denied"
        actorUserId := some call.principal.userId
        actorClientId := some call.principal.clientId
        deviceId := some device.id, action := some call.action
        outcome := some reason, correlationId := some call.correlationId }] }

def publish (service : CommandService) (type : EventType) (command : Command) :
    CommandService :=
  { service with
    reads := service.reads + 1
    trace := service.trace ++ [.published
      { type, occurredAt := clock service.reads, deviceId := some command.deviceId
        commandId := some command.id, correlationId := some command.correlationId
        payload := [("status", .str command.status.value),
          ("action", .str command.action.value)] }] }

-- What an accepted call is carried out with.
structure Accepted where
  device : Device
  params : CommandParams
  risk : RiskClass

-- The checks of submit, in the order in which it makes them.
def check (coercion : Coercion) (service : CommandService) (call : SubmitCall) :
    CommandService × Except HomeFlowError Accepted :=
  match service.registry.get call.deviceId with
  | none => (service, .error .deviceNotFound)
  | some device =>
      match validate coercion call.action call.parameters with
      | .error error => (service, .error error)
      | .ok params =>
          if !device.supports (requiredCapabilityFor call.action params) then
            (auditDenied clock service call device "capability_not_supported",
              .error .capabilityNotSupported)
          else
            match checkConstraints device params with
            | .error error => (service, .error error)
            | .ok () =>
                let risk := classify call.action params
                if risk = .high then
                  (auditDenied clock service call device "action_authorization_required",
                    .error .actionAuthorizationRequired)
                else if device.availability = .offline then
                  (auditDenied clock service call device "device_unavailable",
                    .error .deviceUnavailable)
                else (service, .ok ⟨device, params, risk⟩)

def create (service : CommandService) (call : SubmitCall) (accepted : Accepted) :
    CommandService × Command :=
  let now := clock service.reads
  let command : Command :=
    { id := service.ids, deviceId := accepted.device.id
      requestedByUserId := call.principal.userId
      requestedByClientId := call.principal.clientId
      action := call.action, parameters := accepted.params.dump
      riskClass := accepted.risk, correlationId := call.correlationId
      createdAt := now, expiresAt := now + COMMAND_TTL, status := .pending }
  let drawn := { service with reads := service.reads + 1, ids := service.ids + 1 }
  let recorded := (drawn.remember command).emit (.recorded
    { occurredAt := now, event := "command.requested"
      actorUserId := some call.principal.userId, actorClientId := some call.principal.clientId
      deviceId := some accepted.device.id, commandId := some command.id
      action := some call.action, riskClass := some accepted.risk
      correlationId := some call.correlationId, context := command.parameters })
  (publish clock recorded .commandRequested command, command)

-- A text of its own: none and the empty string are both false.
def truthy : Option String → Option String
  | some text => if text = "" then none else some text
  | none => none

def finish (service : CommandService) (command : Command) (status : CommandStatus)
    (failureCode : Option String) : CommandService × Command :=
  let now := clock service.reads
  let finished := command.withStatus status now failureCode
  let drawn := { service with reads := service.reads + 1 }
  let recorded := (drawn.remember finished).emit (.recorded
    { occurredAt := now, event := "command.completed"
      actorUserId := some finished.requestedByUserId
      actorClientId := some finished.requestedByClientId
      deviceId := some finished.deviceId, commandId := some finished.id
      action := some finished.action, riskClass := some finished.riskClass
      outcome := some status.value, correlationId := some finished.correlationId
      context := match truthy failureCode with
        | some code => [("failure_code", .str code)]
        | none => [] })
  match COMPLETION_EVENTS status with
  | some type => (publish clock recorded type finished, finished)
  | none => (recorded, finished)

def start (service : CommandService) (command : Command) : CommandService × Command :=
  let running := command.withStatus .running (clock service.reads)
  let remembered := { service with reads := service.reads + 1 }.remember running
  (publish clock remembered .commandStarted running, running)

-- The lock of a device: the table keeps the most recently used ones.
def deviceLock (service : CommandService) (deviceId : Uuid) : CommandService × LockId :=
  match service.locks.get? deviceId with
  | some lock => ({ service with locks := service.locks.moveToEnd deviceId }, lock)
  | none =>
      let kept := if service.locks.length ≥ MAX_DEVICE_LOCKS then service.locks.popFirst
        else service.locks
      ({ service with
        locks := (kept.set deviceId service.nextLock).moveToEnd deviceId
        nextLock := service.nextLock + 1 }, service.nextLock)

def ingest (service : CommandService) (ref : ProviderDeviceRef) (state : ProviderState)
    (source : StateSource) (correlationId : Option String := none) : CommandService :=
  let devices := DeviceService.ingest clock
    { registry := service.registry, reads := service.reads } ref state source correlationId
  { service with
    registry := devices.registry
    reads := devices.reads
    trace := service.trace ++ devices.events.map .published }

-- What is left of a result once its state is ingested.
def settle (service : CommandService) (running : Command) (result : ProviderCommandResult) :
    CommandService × Command :=
  match result.outcome with
  | .applied => finish clock service running .succeeded none
  | .rejected =>
      finish clock service running .failed (some ((truthy result.failureCode).getD "rejected"))
  | .unknown => finish clock service running .unknown result.failureCode

def ingestResult (service : CommandService) (running : Command) (ref : ProviderDeviceRef)
    (result : ProviderCommandResult) : CommandService :=
  match result.state with
  | some state => ingest clock service ref state .commandResult (some running.correlationId)
  | none => service

-- None: a timeout, after which the state is read back.
def afterExecute (service : CommandService) (running : Command) (ref : ProviderDeviceRef) :
    AdapterOutcome ProviderCommandResult → Option (CommandService × Command)
  | .returned result => some (settle clock (ingestResult clock service running ref result)
      running result)
  | .raised (.providerError failureCode) =>
      some (finish clock service running .failed (some failureCode))
  | .raised .other => some (finish clock service running .failed (some "internal_error"))
  | .raised .timeoutError | .deadline => none

-- Read state back once after a timeout to decide the real outcome.
def afterGetState (service : CommandService) (running : Command) (ref : ProviderDeviceRef)
    (params : CommandParams) : AdapterOutcome ProviderState → CommandService × Command
  | .returned observed =>
      let service := ingest clock service ref observed .providerSnapshot
        (some running.correlationId)
      if desiredMatches running.action params observed.state = some true then
        finish clock service running .succeeded none
      else finish clock service running .unknown (some "device_response_timeout")
  | .raised _ | .deadline => finish clock service running .unknown (some "reconciliation_failed")

end Clock

end CommandService

end Homeflow.Commands
