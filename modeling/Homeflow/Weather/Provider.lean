import Homeflow.Commands.Models
import Homeflow.Integrations.Base
import Homeflow.Main.Restarts

-- The outdoor temperature: one number, asked for on a slow schedule.
namespace Homeflow.Weather

open Main (Jitter Supervisor)

def PROVIDER_NAME : String := "weather"
def DEVICE_ID : String := "outdoor"
def INITIAL_BACKOFF_SECONDS : ℚ := 60
def MAX_BACKOFF_SECONDS : ℚ := 3600

-- Anything outside this is not a temperature in a place people live.
def PLAUSIBLE_RANGE_C : ℚ × ℚ := (-90, 60)

-- How a request to the service ends.
inductive Answer where
  -- Without a response, with an error status, or with a body that is not JSON.
  | failed
  -- With an exception that is none of these.
  | raised
  | payload (json : Json)

inductive FetchError where
  | unavailable
  | other

-- The error of the base package that it stands for.
def FetchError.exception : FetchError → ProviderException
  | .unavailable => .providerError PROVIDER_UNAVAILABLE
  | .other => .other

-- round(value, 1)
def roundTenths : PyFloat → PyFloat
  | .finite value => .finite (PyFloat.roundHalfEven (10 * value) / 10)
  | other => other

section Fetch

-- The validation library's conversions.
variable (coercion : Coercion)

-- As for a setpoint, not a number is within no bounds.
def inPlausibleRange : PyFloat → Bool
  | .finite value => PLAUSIBLE_RANGE_C.1 ≤ value ∧ value ≤ PLAUSIBLE_RANGE_C.2
  | .posInf | .negInf | .nan => false

def temperature (payload : Json) : Option PyFloat :=
  match payload with
  | .obj members =>
      match Json.member? members "current" with
      | some (.obj current) =>
          ((Json.member? current "temperature_2m").bind coercion.float).filter inPlausibleRange
      | _ => none
  | _ => none

def fetch : Answer → Except FetchError PyFloat
  | .failed => .error .unavailable
  | .raised => .error .other
  | .payload json =>
      match temperature coercion json with
      | some celsius => .ok (roundTenths celsius)
      | none => .error .unavailable

end Fetch

def outdoorRef : ProviderDeviceRef := ⟨PROVIDER_NAME, DEVICE_ID⟩

structure OpenMeteoProvider where
  displayName : String := "Outdoor"
  roomHint : Option String := none
  pollSeconds : ℚ := 900

namespace OpenMeteoProvider

def discoverDevices (provider : OpenMeteoProvider) : List ProviderDevice :=
  [{ ref := outdoorRef, suggestedName := provider.displayName, kind := .sensor
     capabilities := [.currentTemperature], roomHint := provider.roomHint }]

-- A thermometer is not a control surface.
def execute (_ : ProviderDeviceRef) (_ : ProviderCommand) : ProviderException :=
  .providerError PROVIDER_REJECTED

end OpenMeteoProvider

-- Where subscribe is suspended, or what its consumer does.
inductive Phase where
  -- There is no stream.
  | idle
  -- It sleeps before the next request, or after a failed one.
  | sleeping (deadline : ℚ)
  | backing (deadline : ℚ)
  | fetching
  -- It has yielded an event.
  | yielded
  -- It has raised, and its consumer sleeps.
  | resting (deadline : ℚ)
  | stopped

inductive Effect where
  | asked (time : ℚ)
  -- How the request has ended.
  | reading (celsius : PyFloat)
  | unavailable
  | raised
deriving DecidableEq

-- The provider's stream and the task that consumes it.
structure World where
  supervisor : Supervisor := {}
  phase : Phase := .idle
  backoff : ℚ := INITIAL_BACKOFF_SECONDS
  now : ℚ := 0
  trace : List Effect := []

inductive Label where
  | elapses (seconds : { seconds : ℚ // 0 ≤ seconds })
  | subscribes
  -- A sleep is over.
  | wakes
  -- The request ends. The jitter is drawn by the stream if it backs off, by the consumer if
  -- the stream raises.
  | answered (answer : Answer) (jitter : Jitter)
  -- The event is ingested, or that raises.
  | ingested
  | ingestFails (jitter : Jitter)
  | cancelled

namespace World

variable (provider : OpenMeteoProvider) (coercion : Coercion)

def emit (world : World) (effect : Effect) : World :=
  { world with trace := world.trace ++ [effect] }

-- The consumer gives up on the stream, and sleeps before it subscribes again.
def fails (world : World) (jitter : Jitter) : Option World :=
  (Main.step world.supervisor (.failed jitter)).map fun supervisor =>
    { world with
      supervisor
      phase := .resting (world.now +
        min (world.supervisor.backoff + jitter) Main.MAX_BACKOFF_SECONDS) }

def step (world : World) : Label → Option World
  | .elapses seconds => some { world with now := world.now + seconds }
  | .subscribes =>
      match world.phase with
      | .idle =>
          (Main.step world.supervisor .subscribe).map fun supervisor =>
            { world with
              supervisor
              phase := .sleeping (world.now + provider.pollSeconds)
              backoff := INITIAL_BACKOFF_SECONDS }
      | _ => none
  | .wakes =>
      match world.phase with
      | .sleeping deadline =>
          if deadline ≤ world.now then
            some ({ world with phase := .fetching }.emit (.asked world.now))
          else none
      | .backing deadline =>
          if deadline ≤ world.now then
            some { world with
              phase := .sleeping (world.now + provider.pollSeconds)
              backoff := min (world.backoff * 2) MAX_BACKOFF_SECONDS }
          else none
      | .resting deadline =>
          if deadline ≤ world.now then
            (Main.step world.supervisor .woke).map fun supervisor =>
              { world with supervisor, phase := .idle }
          else none
      | _ => none
  | .answered answer jitter =>
      match world.phase with
      | .fetching =>
          match fetch coercion answer with
          | .ok celsius =>
              some ({ world with
                phase := .yielded, backoff := INITIAL_BACKOFF_SECONDS }.emit (.reading celsius))
          | .error .unavailable =>
              some ({ world with
                phase := .backing (world.now +
                  min (world.backoff + jitter * 30) MAX_BACKOFF_SECONDS) }.emit .unavailable)
          | .error .other => (world.emit .raised).fails jitter
      | _ => none
  | .ingested =>
      match world.phase with
      | .yielded =>
          (Main.step world.supervisor .ingested).map fun supervisor =>
            { world with supervisor, phase := .sleeping (world.now + provider.pollSeconds) }
      | _ => none
  | .ingestFails jitter =>
      match world.phase with
      | .yielded => world.fails jitter
      | _ => none
  | .cancelled =>
      (Main.step world.supervisor .cancelled).map fun supervisor =>
        { world with supervisor, phase := .stopped }

end World

end Homeflow.Weather
