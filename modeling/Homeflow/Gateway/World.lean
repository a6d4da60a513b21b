import Homeflow.Commands.World
import Homeflow.Schedules.World

namespace Homeflow.Gateway

open Schedules (Ticket CreateRequest)

-- What became of a call the timer service made: it was refused at once, or it is the
-- command that was created for it.
inductive Call where
  | refused (error : HomeFlowError)
  | command (id : Uuid)
deriving DecidableEq

-- The two services in one event loop, the second calling submit of the first.
structure World where
  commands : Commands.World
  schedules : Schedules.World := {}
  calls : OrderedDict Ticket Call := .empty
  tickets : Ticket := 0

inductive Label where
  -- A tap, an answer of an adapter, or anything else that concerns commands alone.
  | command (label : Commands.Label)
  | create (request : CreateRequest)
  | createReturns (ticket : Ticket)
  | cancel (principal : Principal) (id : Uuid)
  | wake
  | loopReturns
  | stop
  | fire (schedule : Schedule)
  | fireReturns (ticket : Ticket)

def Label.direct : Label → Bool
  | .fire _ | .fireReturns _ => true
  | _ => false

def reply : Commands.Reply → Call
  | .refused error => .refused error
  | .returned command => .command command.id
  | .suspended id => .command id

namespace World

-- How a call has ended, if it has.
def outcome (world : World) (ticket : Ticket) : Option SubmitOutcome :=
  match world.calls.get? ticket with
  | some (.refused error) => some (.refused error)
  | some (.command id) => (world.commands.returned.get? id).map .returned
  | none => none

-- The step of the timer service a label stands for.
def timers (world : World) : Label → Option Schedules.Label
  | .command _ => none
  | .create request => some (.create world.tickets request
      (world.commands.service.registry.get request.deviceId))
  | .createReturns ticket => (world.outcome ticket).map (.createReturns ticket)
  | .cancel principal id => some (.cancel principal id)
  | .wake => some (.wake world.tickets)
  | .loopReturns =>
      match world.schedules.loop with
      | .firing ticket _ _ => (world.outcome ticket).map fun outcome =>
          .loopReturns outcome world.tickets
      | _ => none
  | .stop => some .stop
  | .fire schedule => some (.fire world.tickets schedule)
  | .fireReturns ticket => (world.outcome ticket).map (.fireReturns ticket)

-- The readings each service makes of the clock they share.
variable (commandsClock schedulesClock : Nat → Time) (maximum : ℚ) (coercion : Coercion)

-- A call of submit runs on to its first await within the step that makes it.
def submits (world : World) : Schedules.Stepped → World
  | (schedules, none) => { world with schedules }
  | (schedules, some (ticket, call)) =>
      let answered := world.commands.submit commandsClock coercion call
      { commands := answered.1, schedules
        calls := world.calls.set ticket (reply answered.2), tickets := world.tickets + 1 }

def step (world : World) : Label → Option World
  | .command label => (world.commands.step commandsClock coercion label).map fun commands =>
      { world with commands }
  | label => (world.timers label).bind fun timer =>
      (world.schedules.advance schedulesClock maximum timer).map
        (world.submits commandsClock coercion)

-- The call of submit a step makes, by a tap or on behalf of a timer.
def submitted (world : World) : Label → Option SubmitCall
  | .command (.submit call) => some call
  | label => (world.timers label).bind fun timer =>
      (world.schedules.advance schedulesClock maximum timer).bind fun stepped =>
        stepped.2.map Prod.snd

end World

def initial (registry : DeviceRegistry) (providers : List String) : World :=
  { commands := Commands.initial registry providers }

end Homeflow.Gateway
