import Homeflow.Commands.World
import Homeflow.Demo.Provider
import Homeflow.Devices.Bootstrap
import Homeflow.Devices.Held

-- The gateway in Demo Mode: the command pipeline over the fictional household.
namespace Homeflow.Demo

def POOL_MIN_C : ℚ := 20
def POOL_MAX_C : ℚ := 40

def ref (deviceId : String) : ProviderDeviceRef := ⟨PROVIDER_NAME, deviceId⟩

def buildDevices : List DemoDevice := [
  { definition := {
      ref := ref "living-room-ceiling-light", suggestedName := "Ceiling Light", kind := .light
      capabilities := [.power, .brightness], roomHint := some "Living Room" }
    state := { power := some true, brightness := some ⟨60, by decide⟩ } },
  { definition := {
      ref := ref "living-room-speaker", suggestedName := "Speaker", kind := .mediaPlayer
      capabilities := [.mediaPlayback, .volume], roomHint := some "Living Room" }
    state := { playback := some .paused, volume := some ⟨25, by decide⟩ } },
  { definition := {
      ref := ref "hallway-lock", suggestedName := "Demo Lock", kind := .lock
      capabilities := [.lock, .unlock], roomHint := some "Hallway" }
    state := { lockState := some .locked } },
  { definition := {
      ref := ref "terrace-pool", suggestedName := "Demo Pool", kind := .pool
      capabilities := [.currentTemperature, .targetTemperature, .heating, .filter, .bubbles,
        .controlPanelLock]
      roomHint := some "Terrace"
      constraints := {
        targetTemperatureMinC := some (.finite POOL_MIN_C)
        targetTemperatureMaxC := some (.finite POOL_MAX_C)
        targetTemperatureStepC := some (.finite POOL_STEP_C) } }
    state := {
      currentTemperatureC := some (.finite (49 / 2)), targetTemperatureC := some (.finite 36)
      heater := some false, filterPump := some true, bubbles := some false
      controlPanelLock := some false } },
  { definition := {
      ref := ref "utility-washer", suggestedName := "Demo Washer", kind := .washingMachine
      capabilities := [.programStatus, .remainingTime], roomHint := some "Utility Room" }
    state := {
      program := some .running, programName := some "Cottons 40"
      remainingSeconds := some (45 * 60) } },
  -- Starts unreachable so that offline handling is always visible.
  { definition := {
      ref := ref "utility-dishwasher", suggestedName := "Demo Dishwasher", kind := .dishwasher
      capabilities := [.programStatus, .remainingTime], roomHint := some "Utility Room" }
    state := { program := some .idle }
    availability := .offline }]

namespace DemoProvider

def create (failureRate : ℚ) (timeScale : ℚ := DEFAULT_TIME_SCALE) : DemoProvider where
  failureRate := failureRate
  timeScale := timeScale
  devices := .ofValues (fun device => device.ref.providerDeviceId) buildDevices

def discoverDevices (provider : DemoProvider) : List ProviderDevice :=
  provider.devices.values.map DemoDevice.definition

def getState (provider : DemoProvider) (ref : ProviderDeviceRef) (now : Time) :
    Except ProviderException ProviderState :=
  match provider.require ref with
  | some device => .ok (snapshot device now)
  | none => .error (.providerError PROVIDER_UNAVAILABLE)

-- What the start of the gateway finds.
def found (provider : DemoProvider) (now : ProviderDeviceRef → Time) : DeviceProvider where
  discoverDevices := .ok (provider.discoverDevices.map fun device =>
    ⟨device, provider.getState device.ref (now device.ref)⟩)

end DemoProvider

-- The pipeline and the household it reaches.
structure World where
  pipeline : Commands.World
  household : DemoProvider

inductive Label where
  -- A call of submit, a turn on a lock, or a task that is cancelled from outside.
  | submit (call : SubmitCall)
  | enter (id : Uuid)
  | cancelTask (id : Uuid)
  -- The latency of a command is over before its deadline, with this draw of the generator.
  | executed (id : Uuid) (random : ℚ) (now : Time)
  -- The deadline comes first and cancels the call.
  | deadline (id : Uuid)
  -- The read after that, which awaits nothing and so cannot time out.
  | readBack (id : Uuid) (now : Time)
  | tick (elapsedSeconds : ℚ) (now : DemoDevice → Time)

def ended {α : Type} : Except ProviderException α → AdapterOutcome α
  | .ok value => .returned value
  | .error error => .raised error

namespace World

variable (clock : Nat → Time) (coercion : Coercion)

def act (world : World) (label : Commands.Label) : Option World :=
  (world.pipeline.step clock coercion label).map fun pipeline => { world with pipeline }

-- The stream of the provider is read to the end of a tick without an await.
def ingested (service : Commands.CommandService) (events : List ProviderEvent) :
    Commands.CommandService :=
  events.foldl (fun service event => service.ingest clock event.ref event.state .providerEvent)
    service

def step (world : World) : Label → Option World
  | .submit call => world.act clock coercion (.submit call)
  | .enter id => world.act clock coercion (.enter id)
  | .cancelTask id => world.act clock coercion (.cancelTask id)
  | .executed id random now =>
      (world.pipeline.tasks.get? id).bind fun task =>
        let (household, result) := world.household.execute task.ref
          ⟨task.running.action, task.params⟩ random now
        { world with household }.act clock coercion (.executeReturns id (ended result))
  | .deadline id => world.act clock coercion (.executeReturns id .deadline)
  | .readBack id now =>
      (world.pipeline.tasks.get? id).bind fun task =>
        world.act clock coercion
          (.getStateReturns id (ended (world.household.getState task.ref now)))
  | .tick elapsedSeconds now =>
      let (household, events) := world.household.tick elapsedSeconds now
      some {
        pipeline := { world.pipeline with
          service := ingested clock world.pipeline.service events }
        household }

end World

-- The gateway as it starts: what the household tells of itself is registered.
def initial (clock : Nat → Time) (deviceUuid : ProviderDeviceRef → Uuid)
    (roomUuid : String → Uuid) (household : DemoProvider) (now : ProviderDeviceRef → Time) :
    World where
  pipeline := Commands.initial (DeviceService.bootstrap clock deviceUuid roomUuid
    { registry := .empty } [household.found now]).1.registry [PROVIDER_NAME]
  household := household

end Homeflow.Demo
