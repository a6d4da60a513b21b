import Homeflow.Records

namespace Homeflow

inductive ScheduleKind where
  -- Off now, on when the timer runs out.
  | delayedStart
  -- On now, off when the timer runs out.
  | runFor
deriving DecidableEq, Repr

inductive ScheduleStatus where
  | armed | completed | cancelled | superseded | failed | unknown
deriving DecidableEq, Repr

def ScheduleStatus.value : ScheduleStatus → String
  | .armed => "ARMED"
  | .completed => "COMPLETED"
  | .cancelled => "CANCELLED"
  | .superseded => "SUPERSEDED"
  | .failed => "FAILED"
  | .unknown => "UNKNOWN"

def ScheduleStatus.lower : ScheduleStatus → String
  | .armed => "armed"
  | .completed => "completed"
  | .cancelled => "cancelled"
  | .superseded => "superseded"
  | .failed => "failed"
  | .unknown => "unknown"

def ScheduleKind.value : ScheduleKind → String
  | .delayedStart => "DELAYED_START"
  | .runFor => "RUN_FOR"

-- Terminal states. A timer in any of these never fires again.
def SETTLED : List ScheduleStatus := [.completed, .cancelled, .superseded, .failed, .unknown]

-- The statuses the settling step asserts it is given.
abbrev SettledStatus := { status : ScheduleStatus // status ∈ SETTLED }

-- An immutable timer record: every transition creates a new one.
structure Schedule where
  id : Uuid
  deviceId : Uuid
  kind : ScheduleKind
  action : Action
  desired : Bool
  requestedByUserId : Uuid
  requestedByClientId : Uuid
  requestedByDisplayName : String
  createdAt : Time
  dueAt : Time
  correlationId : String
  status : ScheduleStatus := .armed
  failureCode : Option String := none
  commandId : Option Uuid := none
deriving DecidableEq

def Schedule.settled (schedule : Schedule) (status : ScheduleStatus)
    (failureCode : Option String := none) (commandId : Option Uuid := none) : Schedule :=
  { schedule with status := status, failureCode := failureCode, commandId := commandId }

theorem armed_notMem_settled : ScheduleStatus.armed ∉ SETTLED := by decide

end Homeflow
