import Homeflow.Lib.Machine
import Homeflow.Schedules.Service

namespace Homeflow.Schedules

-- The firing loop: asleep between two ticks, suspended in the submit call made for
-- one timer of its due list, or cancelled with the application, perhaps in such a call.
inductive Loop where
  | asleep
  | firing (ticket : Ticket) (current : Schedule) (rest : List Schedule)
  | stopped (abandoned : Option Schedule)

-- The service with every coroutine that is suspended in it.
structure World where
  service : ScheduleService := {}
  loop : Loop := .asleep
  creating : OrderedDict Ticket PendingCreate := .empty
  -- Calls of fire made directly, outside the loop.
  firing : OrderedDict Ticket Schedule := .empty

-- The points at which the event loop runs a coroutine on to its next await.
inductive Label where
  | create (ticket : Ticket) (request : CreateRequest) (device : Option Device)
  | createReturns (ticket : Ticket) (outcome : SubmitOutcome)
  | cancel (principal : Principal) (id : Uuid)
  | wake (ticket : Ticket)
  | loopReturns (outcome : SubmitOutcome) (next : Ticket)
  | stop
  | fire (ticket : Ticket) (schedule : Schedule)
  | fireReturns (ticket : Ticket) (outcome : SubmitOutcome)

def Label.direct : Label → Bool
  | .fire _ _ | .fireReturns _ _ => true
  | _ => false

-- A step ends with at most one new call of the submitter.
abbrev Stepped := World × Option (Ticket × SubmitCall)

namespace World

variable (clock : Nat → Time) (maximum : ℚ)

def call (world : World) (ticket : Ticket) (timer : Schedule) : World :=
  let firing : Firing :=
    ⟨ticket, timer, ScheduleService.fireCall timer, clock (world.service.reads - 1)⟩
  { world with service := world.service.emit (.fired firing) }

-- The loop goes on to the next timer of its due list without an await in between.
def next (world : World) (ticket : Ticket) : List Schedule → Stepped
  | [] => ({ world with loop := .asleep }, none)
  | timer :: rest =>
      ({ world.call clock ticket timer with loop := .firing ticket timer rest },
        some (ticket, ScheduleService.fireCall timer))

-- The timer that is fired and not settled yet.
def unhandled (world : World) : Option Schedule :=
  match world.loop with
  | .asleep => none
  | .firing _ timer _ => some timer
  | .stopped abandoned => abandoned

def advance (world : World) : Label → Option Stepped
  | .create ticket request device =>
      if (world.creating.get? ticket).isSome then none
      else
        match world.service.create clock maximum request device with
        | (service, .submitting pending) =>
            let call := ScheduleService.onCommand pending
            some ({ world with
              service := service.emit (.turnedOn ticket call)
              creating := world.creating.set ticket pending },
              some (ticket, call))
        | (service, _) => some ({ world with service }, none)
  | .createReturns ticket outcome =>
      (world.creating.get? ticket).map fun pending =>
        ({ world with
          service := (world.service.createResumes clock pending outcome).1
          creating := world.creating.erase ticket }, none)
  | .cancel principal id =>
      some ({ world with service := (world.service.cancel clock principal id).1 }, none)
  | .wake ticket =>
      match world.loop with
      | .asleep =>
          let (service, due) := world.service.due clock
          some (next clock { world with service } ticket due)
      | _ => none
  | .loopReturns outcome ticket =>
      match world.loop with
      | .firing _ current rest =>
          some (next clock
            { world with service := world.service.runResumes clock current outcome } ticket rest)
      | _ => none
  | .stop => some ({ world with loop := .stopped world.unhandled }, none)
  | .fire ticket schedule =>
      if (world.firing.get? ticket).isSome then none
      else
        some ({ world.call clock ticket schedule with
          firing := world.firing.set ticket schedule },
          some (ticket, ScheduleService.fireCall schedule))
  | .fireReturns ticket outcome =>
      (world.firing.get? ticket).map fun schedule =>
        ({ world with
          service := (world.service.fireResumes clock schedule outcome).getD world.service
          firing := world.firing.erase ticket }, none)

def step (world : World) (label : Label) : Option World :=
  (advance clock maximum world label).map Prod.fst

-- The timers of the due list that are not settled yet.
def loopTimers (world : World) : List Schedule :=
  match world.loop with
  | .firing _ timer rest => timer :: rest
  | _ => []

-- The timers the loop still holds in its due list.
def waiting (world : World) : List Schedule :=
  match world.loop with
  | .firing _ _ rest => rest
  | _ => []

-- The timer the loop is suspended on.
def current (world : World) : Option Schedule :=
  match world.loop with
  | .firing _ timer _ => some timer
  | _ => none

end World

end Homeflow.Schedules
