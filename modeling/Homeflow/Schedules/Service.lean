import Homeflow.Commands.Policy
import Homeflow.Lib.OrderedDict
import Homeflow.Schedules.Models
import Mathlib.Data.List.Sort

namespace Homeflow.Schedules

-- Only these functions may be put on a timer.
def TIMED_ACTIONS : List Action := [.setHeater, .setFilter]

def STEP_HOURS : ℚ := 1 / 2
def MIN_HOURS : ℚ := 1 / 2
def STEP_MICROSECONDS : Int := 1800000000
@[irreducible] def MAX_TRACKED : Nat := 200

-- A call in flight is known by its ticket.
abbrev Ticket := Nat

-- A call made on behalf of a timer, with the last clock reading before it.
structure Firing where
  ticket : Ticket
  timer : Schedule
  call : SubmitCall
  reading : Time

inductive Effect where
  | stored (schedule : Schedule)
  | recorded (entry : AuditEntry)
  | published (event : DomainEvent)
  | fired (firing : Firing)
  -- The attended on-command of a "run for" request.
  | turnedOn (ticket : Ticket) (call : SubmitCall)

structure CreateRequest where
  principal : Principal
  deviceId : Uuid
  action : Action
  kind : ScheduleKind
  hours : ℚ
  correlationId : String

-- What create holds while it awaits its on-command.
structure PendingCreate where
  request : CreateRequest
  delay : Time
  desired : Bool

inductive CreateProgress where
  | raised (error : HomeFlowError)
  | failed
  | submitting (pending : PendingCreate)
  | armed (schedule : Schedule)

structure ScheduleService where
  schedules : OrderedDict Uuid Schedule := .empty
  -- How many clock readings and how many identifiers have been drawn.
  reads : Nat := 0
  ids : Nat := 0
  trace : List Effect := []

namespace ScheduleService

def get (service : ScheduleService) (id : Uuid) : Except HomeFlowError Schedule :=
  match service.schedules.get? id with
  | some schedule => .ok schedule
  | none => .error .scheduleNotFound

def armed (service : ScheduleService) : List Schedule :=
  service.schedules.values.filter fun schedule => schedule.status = .armed

-- Every armed timer on one device, soonest first.
def forDevice (service : ScheduleService) (deviceId : Uuid) : List Schedule :=
  (service.armed.filter fun schedule => schedule.deviceId = deviceId).insertionSort
    fun first second => first.dueAt ≤ second.dueAt

-- The armed timers a new one for the same function replaces.
def replaced (service : ScheduleService) (deviceId : Uuid) (action : Action) : List Schedule :=
  (service.forDevice deviceId).filter fun existing => existing.action = action

def emit (service : ScheduleService) (effect : Effect) : ScheduleService :=
  { service with trace := service.trace ++ [effect] }

section Clock

-- The successive readings of the clock, and the ceiling of a timer in hours.
variable (clock : Nat → Time) (maximum : ℚ)

def publish (service : ScheduleService) (schedule : Schedule) (type : EventType) :
    ScheduleService :=
  { service with
    reads := service.reads + 1
    trace := service.trace ++ [.published
      { type, occurredAt := clock service.reads, deviceId := some schedule.deviceId,
        correlationId := some schedule.correlationId,
        payload := [("scheduleId", .int schedule.id), ("status", .str schedule.status.value)] }] }

def record (service : ScheduleService) (schedule : Schedule) (event : String)
    (actor : Option Principal := none) : ScheduleService :=
  { service with
    reads := service.reads + 1
    trace := service.trace ++ [.recorded
      { occurredAt := clock service.reads, event
        actorUserId := some ((actor.map Principal.userId).getD schedule.requestedByUserId)
        actorClientId := some ((actor.map Principal.clientId).getD schedule.requestedByClientId)
        deviceId := some schedule.deviceId, commandId := schedule.commandId
        action := some schedule.action, riskClass := some .medium
        outcome := some schedule.status.value
        correlationId := some schedule.correlationId
        context := [("kind", .str schedule.kind.value), ("desired", .bool schedule.desired),
          ("dueAt", .int schedule.dueAt)] }] }

def auditDenied (service : ScheduleService) (request : CreateRequest) (reason : String) :
    ScheduleService :=
  { service with
    reads := service.reads + 1
    trace := service.trace ++ [.recorded
      { occurredAt := clock service.reads, event := "schedule.denied"
        actorUserId := some request.principal.userId
        actorClientId := some request.principal.clientId
        deviceId := some request.deviceId, action := some request.action
        outcome := some reason, correlationId := some request.correlationId }] }

def store (service : ScheduleService) (schedule : Schedule) : ScheduleService :=
  { service with
    schedules := service.schedules.set schedule.id schedule
    trace := service.trace ++ [.stored schedule] }

def settle (service : ScheduleService) (schedule : Schedule) (status : SettledStatus)
    (failureCode : Option String := none) (commandId : Option Uuid := none)
    (actor : Option Principal := none) : ScheduleService :=
  let settled := schedule.settled status.val failureCode commandId
  publish clock (record clock (service.store settled) settled
    ("schedule." ++ status.val.lower) actor) settled .scheduleSettled

def supersede (service : ScheduleService) (existing : List Schedule) : ScheduleService :=
  existing.foldl (fun held timer => settle clock held timer ⟨.superseded, by decide⟩) service

-- Each round of the eviction loop drops the first settled timer; with none left
-- it gives up, so an armed timer is never forgotten.
def evictSettled : Nat → OrderedDict Uuid Schedule → OrderedDict Uuid Schedule
  | 0, table => table
  | excess + 1, table =>
      match table.entries.find? fun entry => entry.2.status ≠ .armed with
      | some entry => evictSettled excess (table.erase entry.1)
      | none => table

def remember (service : ScheduleService) (schedule : Schedule) : ScheduleService :=
  let stored := service.store schedule
  { stored with
    schedules := evictSettled (stored.schedules.length - MAX_TRACKED) stored.schedules }

def validateHours (hours : ℚ) : Except HomeFlowError Time :=
  let steps := PyFloat.roundHalfEven (hours / STEP_HOURS)
  let rounded : ℚ := steps * STEP_HOURS
  if rounded < MIN_HOURS ∨ maximum < rounded ∨ 1 / 10 ^ 9 < |rounded - hours| then
    .error (.timerOutOfRange maximum)
  else .ok (steps * STEP_MICROSECONDS)

-- The checks of create, up to its on-command.
def prepare (service : ScheduleService) (request : CreateRequest) (device : Option Device) :
    ScheduleService × Except HomeFlowError PendingCreate :=
  match device with
  | none => (service, .error .deviceNotFound)
  | some device =>
      if request.action ∉ TIMED_ACTIONS then
        (auditDenied clock service request "not_schedulable",
          .error (.capabilityNotSupported
            (some "Only the pool heater and filter pump can be put on a timer.")))
      else
        match validateHours maximum request.hours with
        | .error error => (service, .error error)
        | .ok delay =>
            -- "Run for" ends with the function off; "start in" ends with it on.
            let desired : Bool := request.kind = .delayedStart
            let params := CommandParams.onOff desired
            if !device.supports (requiredCapabilityFor request.action params) then
              (auditDenied clock service request "capability_not_supported",
                .error .capabilityNotSupported)
            else if classify request.action params = .high then
              (service, .error .actionAuthorizationRequired)
            else (service, .ok { request, delay, desired })

-- One timer per function: the armed ones are settled before the new one is kept.
def arm (service : ScheduleService) (pending : PendingCreate) (commandId : Option Uuid) :
    ScheduleService × Schedule :=
  let request := pending.request
  let now := clock service.reads
  let schedule : Schedule :=
    { id := service.ids, deviceId := request.deviceId, kind := request.kind
      action := request.action, desired := pending.desired
      requestedByUserId := request.principal.userId
      requestedByClientId := request.principal.clientId
      requestedByDisplayName := request.principal.displayName
      createdAt := now, dueAt := now + pending.delay
      correlationId := request.correlationId, commandId }
  let superseded := supersede clock { service with reads := service.reads + 1 }
    (service.replaced request.deviceId request.action)
  let kept := { superseded with ids := superseded.ids + 1 }.remember schedule
  (publish clock (record clock kept schedule "schedule.created") schedule .scheduleArmed,
    schedule)

def create (service : ScheduleService) (request : CreateRequest) (device : Option Device) :
    ScheduleService × CreateProgress :=
  match prepare clock maximum service request device with
  | (service, .error error) => (service, .raised error)
  | (service, .ok pending) =>
      if request.kind = .runFor then (service, .submitting pending)
      else
        let (service, schedule) := arm clock service pending none
        (service, .armed schedule)

def onCommand (pending : PendingCreate) : SubmitCall where
  principal := pending.request.principal
  deviceId := pending.request.deviceId
  action := pending.request.action
  parameters := [("on", .bool true)]
  correlationId := pending.request.correlationId

-- The rest of create, once its on-command has ended.
def createResumes (service : ScheduleService) (pending : PendingCreate) :
    SubmitOutcome → ScheduleService × CreateProgress
  | .returned command =>
      if command.status ∉ [CommandStatus.succeeded, .unknown] then
        (service, .raised (.deviceUnavailable
          (some "The function could not be started, so no timer was set.")))
      else
        let (service, schedule) := arm clock service pending (some command.id)
        (service, .armed schedule)
  | .refused error => (service, .raised error)
  | .raised => (service, .failed)

def cancel (service : ScheduleService) (principal : Principal) (id : Uuid) :
    ScheduleService × Except HomeFlowError Schedule :=
  match service.get id with
  | .error error => (service, .error error)
  | .ok schedule =>
      if schedule.status ≠ .armed then (service, .ok schedule)
      else
        (settle clock service schedule ⟨.cancelled, by decide⟩ none none (some principal),
          .ok (schedule.settled .cancelled))

def due (service : ScheduleService) : ScheduleService × List Schedule :=
  ({ service with reads := service.reads + 1 },
    service.armed.filter fun item => item.dueAt ≤ clock service.reads)

def fireCall (schedule : Schedule) : SubmitCall where
  principal := ⟨schedule.requestedByUserId, schedule.requestedByClientId,
    schedule.requestedByDisplayName⟩
  deviceId := schedule.deviceId
  action := schedule.action
  parameters := [("on", .bool schedule.desired)]
  correlationId := schedule.correlationId

def firedStatus : CommandStatus → SettledStatus
  | .succeeded => ⟨.completed, by decide⟩
  | .unknown => ⟨.unknown, by decide⟩
  | _ => ⟨.failed, by decide⟩

-- The rest of fire, once its command has ended. None: the exception goes on to
-- the caller and nothing is settled.
def fireResumes (service : ScheduleService) (schedule : Schedule) :
    SubmitOutcome → Option ScheduleService
  | .refused error =>
      some (settle clock service schedule ⟨.failed, by decide⟩ (some error.problemType))
  | .returned command =>
      some (settle clock service schedule (firedStatus command.status) command.failureCode
        (some command.id))
  | .raised => none

-- The body of the loop around fire: what fire lets through settles the timer.
def runResumes (service : ScheduleService) (schedule : Schedule) (outcome : SubmitOutcome) :
    ScheduleService :=
  (fireResumes clock service schedule outcome).getD
    (settle clock service schedule ⟨.failed, by decide⟩ (some "internal_error"))

end Clock

end ScheduleService

end Homeflow.Schedules
