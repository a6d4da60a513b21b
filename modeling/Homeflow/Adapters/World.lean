import Homeflow.Bestway.Retry
import Homeflow.Commands.World
import Homeflow.HomeAssistant.Execution

namespace Homeflow.Adapters

-- The two adapters that write to something outside the gateway.
structure Wiring where
  homeAssistant : HomeAssistant.HomeAssistantProvider
  bestway : Bestway.BestwayProvider
  float : String → Option PyFloat

-- A call of execute that is under way.
inductive Adapter where
  | homeAssistant (execution : HomeAssistant.Execution)
  | bestway (execution : Bestway.Execution Bestway.Bytes)

-- What ends the await of such a call.
inductive Event where
  -- A request to the instance, with its answer or without.
  | answered (exchange : HomeAssistant.Exchange)
  -- A read of the controller, with what its two attempts meet.
  | read (first second : Bestway.Attempt)
  -- The control request is written, or raises before that.
  | written
  | unwritten (error : Bestway.ClientError)
  -- The drain of it returns, or raises: an error of the socket, or a timeout.
  | drained
  | undrained
  | slept

namespace Adapter

variable (wiring : Wiring) (now : Time)

-- None: another adapter.
def start (ref : ProviderDeviceRef) (command : ProviderCommand) : Option Adapter :=
  if ref.provider = HomeAssistant.PROVIDER_NAME then
    some (.homeAssistant (.start wiring.homeAssistant ref command))
  else if ref.provider = Bestway.PROVIDER_NAME then some (.bestway (.start ref command))
  else none

def step : Adapter → Event → Option Adapter
  | .homeAssistant (.calling asked), .answered exchange =>
      some (.homeAssistant ((HomeAssistant.Execution.calling asked).answered wiring.homeAssistant
        wiring.float now exchange))
  | .homeAssistant (.confirming asked attempt latest), .answered exchange =>
      some (.homeAssistant ((HomeAssistant.Execution.confirming asked attempt latest).answered
        wiring.homeAssistant wiring.float now exchange))
  | .homeAssistant (.sleeping asked attempt latest), .slept =>
      some (.homeAssistant (.confirming asked attempt latest))
  | .bestway (.reading datapoint params), .read first second =>
      some (.bestway ((Bestway.Execution.reading datapoint params).readEnds wiring.bestway
        (fun payload => payload) (Bestway.readWithRetry first second)))
  | .bestway (.writing request base), .unwritten error =>
      some (.bestway ((Bestway.Execution.writing request base).sendEnds wiring.bestway
        (fun payload => payload) (.error error)))
  | .bestway (.writing request base), .written =>
      some (.bestway (Bestway.Execution.writing request base).wrote)
  | .bestway (.sending datapoint value), .drained =>
      some (.bestway ((Bestway.Execution.sending datapoint value).sendEnds wiring.bestway
        (fun payload => payload) (.ok ())))
  | .bestway (.sending datapoint value), .undrained =>
      some (.bestway ((Bestway.Execution.sending datapoint value).sendEnds wiring.bestway
        (fun payload => payload) (.error .unavailable)))
  | .bestway (.confirming datapoint value attempt latest), .read first second =>
      some (.bestway ((Bestway.Execution.confirming datapoint value attempt latest).readEnds
        wiring.bestway (fun payload => payload) (Bestway.readWithRetry first second)))
  | .bestway (.sleeping datapoint value attempt latest), .slept =>
      some (.bestway (.confirming datapoint value attempt latest))
  | _, _ => none

def result (executed : Bestway.Executed Bestway.Bytes) : ProviderCommandResult where
  outcome := executed.outcome
  state := executed.observed.bind fun payload =>
    match wiring.bestway.profile.decode payload with
    | .error _ => none
    | .ok decoded => some (Bestway.BestwayProvider.snapshot decoded now)
  failureCode := executed.failureCode

-- How the call has ended, if it has.
def outcome : Adapter → Option (AdapterOutcome ProviderCommandResult)
  | .homeAssistant (.ended (.ok result)) => some (.returned result)
  | .homeAssistant (.ended (.error error)) => some (.raised error.exception)
  | .bestway (.ended (.ok executed)) => some (.returned (result wiring now executed))
  | .bestway (.ended (.error exception)) => some (.raised exception)
  | _ => none

-- Whether the write has left the gateway, for all it knows.
def wrote : Adapter → Bool
  | .homeAssistant execution => execution.called
  | .bestway execution => execution.controlled

-- Whether the event tells that it has not.
def unsent : Adapter → Event → Bool
  | .homeAssistant (.calling _), .answered .unreachable => true
  | _, _ => false

end Adapter

-- The pipeline with the calls of execute that are under way.
structure World where
  pipeline : Commands.World
  adapters : OrderedDict Uuid Adapter := .empty
  -- The commands whose write the peer can have received.
  sent : List Uuid := []

inductive Label where
  | pipeline (label : Commands.Label)
  | begin (id : Uuid) (now : Time)
  | event (id : Uuid) (now : Time) (event : Event)
  -- The deadline of the command cancels its execute.
  | deadline (id : Uuid)

namespace World

variable (clock : Nat → Time) (coercion : Coercion) (wiring : Wiring)

-- Without an adapter of these two, the call ends on its own terms.
def foreign (world : World) (id : Uuid) : Bool :=
  (world.pipeline.tasks.get? id).any fun task =>
    task.ref.provider ≠ HomeAssistant.PROVIDER_NAME ∧ task.ref.provider ≠ Bestway.PROVIDER_NAME

def act (world : World) (label : Commands.Label) : Option World :=
  (world.pipeline.step clock coercion label).map fun pipeline => { world with pipeline }

def forget (world : World) (id : Uuid) : World :=
  { world with adapters := world.adapters.erase id }

-- A call that has ended runs on to the end of its command, or to the read after a timeout.
def settle (world : World) (id : Uuid) (now : Time) (adapter : Adapter) : Option World :=
  match adapter.outcome wiring now with
  | some outcome => (world.forget id).act clock coercion (.executeReturns id outcome)
  | none =>
      some { world with
        adapters := world.adapters.set id adapter
        sent := if adapter.wrote then id :: world.sent else world.sent }

def step (world : World) : Label → Option World
  | .pipeline (.executeReturns id outcome) =>
      if world.foreign id then world.act clock coercion (.executeReturns id outcome) else none
  | .pipeline (.cancelTask id) => (world.forget id).act clock coercion (.cancelTask id)
  | .pipeline label => world.act clock coercion label
  | .begin id now =>
      match world.pipeline.tasks.get? id, world.adapters.get? id with
      | some task, none =>
          if task.phase = .executing then
            (Adapter.start wiring task.ref ⟨task.running.action, task.params⟩).bind
              (world.settle clock coercion wiring id now)
          else none
      | _, _ => none
  | .event id now event =>
      (world.adapters.get? id).bind fun adapter =>
        (adapter.step wiring now event).bind
          ({ world with
            sent := if adapter.unsent event then world.sent.filter (· ≠ id) else world.sent
            }.settle clock coercion wiring id now)
  | .deadline id =>
      if (world.adapters.get? id).isSome then
        (world.forget id).act clock coercion (.executeReturns id .deadline)
      else none

end World

def initial (registry : DeviceRegistry) (providers : List String) : World :=
  { pipeline := Commands.initial registry providers }

end Homeflow.Adapters
