import Homeflow.Integrations.Base
import Homeflow.Lib.OrderedDict

-- The fictional household of Demo Mode.
namespace Homeflow.Demo

def PROVIDER_NAME : String := "demo"

-- The steps in which the pool's target is offered.
def POOL_STEP_C : ℚ := 1 / 2

def AMBIENT_C : ℚ := 22
def HEAT_RATE_C_PER_SIM_MINUTE : ℚ := 35 / 1000
def COOL_COEFFICIENT_PER_SIM_MINUTE : ℚ := 4 / 1000
def BUBBLE_COOLING_FACTOR : ℚ := 2

def DEFAULT_TIME_SCALE : ℚ := 60

structure DemoDevice where
  definition : ProviderDevice
  state : DeviceState
  availability : Availability := .online

def DemoDevice.ref (device : DemoDevice) : ProviderDeviceRef := device.definition.ref

-- The state a compliant demo device would report after the command.
def apply (state : DeviceState) : ProviderCommand → DeviceState
  | ⟨.setPower, .onOff on⟩ => { state with power := some on }
  | ⟨.setBrightness, .brightness value⟩ =>
      { state with brightness := some value, power := some true }
  | ⟨.setVolume, .volume value⟩ => { state with volume := some value }
  | ⟨.setPlayback, .playback command⟩ =>
      { state with playback := some (if command = .play then .playing else .paused) }
  | ⟨.setTargetTemperature, .targetTemperature celsius⟩ =>
      { state with targetTemperatureC := some (.finite celsius.val) }
  -- A real AirJet runs the filter pump whenever it heats.
  | ⟨.setHeater, .onOff on⟩ =>
      { state with heater := some on, filterPump := if on then some true else state.filterPump }
  -- Switching the pump off also stops heating.
  | ⟨.setFilter, .onOff on⟩ =>
      { state with filterPump := some on, heater := if on then state.heater else some false }
  | ⟨.setBubbles, .onOff on⟩ => { state with bubbles := some on }
  | ⟨.setControlPanelLock, .onOff on⟩ => { state with controlPanelLock := some on }
  | ⟨.setLockState, .lockState desired⟩ => { state with lockState := some desired.val }
  | _ => state

-- Where the water of a pool goes, unless the controller holds the setpoint.
def drift (state : DeviceState) (current : PyFloat) (minutes : ℚ) : Option PyFloat :=
  match state.heater, state.targetTemperatureC with
  | some true, some target =>
      if target.le current then none
      else some (target.minimum (current.add (.finite (HEAT_RATE_C_PER_SIM_MINUTE * minutes))))
  | _, _ =>
      let loss := COOL_COEFFICIENT_PER_SIM_MINUTE *
        (if state.bubbles = some true then BUBBLE_COOLING_FACTOR else 1)
      let cooled := current.sub
        ((((current.sub (.finite AMBIENT_C)).scale loss)).scale minutes)
      some ((PyFloat.finite AMBIENT_C).maximum cooled)

def advancePool (state : DeviceState) (simulatedSeconds : ℚ) : DeviceState :=
  match state.currentTemperatureC with
  | none => state
  | some current =>
      match drift state current (simulatedSeconds / 60) with
      | none => state
      | some moved =>
          if moved.roundHundredths.eq current then state
          else { state with currentTemperatureC := some moved.roundHundredths }

-- int of a float: towards zero.
def truncate (value : ℚ) : ℤ := if 0 ≤ value then ⌊value⌋ else ⌈value⌉

def advanceAppliance (state : DeviceState) (simulatedSeconds : ℚ) : DeviceState :=
  match state.program, state.remainingSeconds with
  | some .running, some seconds =>
      let remaining := (seconds - truncate simulatedSeconds).toNat
      if remaining = seconds then state
      else if remaining = 0 then
        { state with remainingSeconds := some 0, program := some .finished }
      else { state with remainingSeconds := some remaining }
  | _, _ => state

def advance (device : DemoDevice) (simulatedSeconds : ℚ) : DeviceState :=
  match device.definition.kind with
  | .pool => advancePool device.state simulatedSeconds
  | .washingMachine | .dishwasher => advanceAppliance device.state simulatedSeconds
  | _ => device.state

-- One device after simulated time.
def DemoDevice.ticked (simulatedSeconds : ℚ) (device : DemoDevice) : DemoDevice :=
  if device.availability = .offline then device
  else { device with state := advance device simulatedSeconds }

def snapshot (device : DemoDevice) (now : Time) : ProviderState :=
  ⟨device.state, device.availability, now⟩

structure ProviderEvent where
  ref : ProviderDeviceRef
  state : ProviderState

structure DemoProvider where
  failureRate : ℚ := 0
  timeScale : ℚ := DEFAULT_TIME_SCALE
  devices : OrderedDict String DemoDevice

-- Advance simulated time. The devices that changed are told of.
def DemoProvider.tick (provider : DemoProvider) (elapsedSeconds : ℚ) (now : DemoDevice → Time) :
    DemoProvider × List ProviderEvent :=
  let simulated := elapsedSeconds * provider.timeScale
  ({ provider with devices := provider.devices.mapValues (DemoDevice.ticked simulated) },
    provider.devices.values.filterMap fun before =>
      let device := before.ticked simulated
      if device.state = before.state then none else some ⟨device.ref, snapshot device (now device)⟩)

def DemoProvider.require (provider : DemoProvider) (ref : ProviderDeviceRef) : Option DemoDevice :=
  (provider.devices.get? ref.providerDeviceId).filter fun _ => ref.provider = PROVIDER_NAME

-- The latency of a command comes before it, so it is applied to the device as it is then.
def DemoProvider.execute (provider : DemoProvider) (ref : ProviderDeviceRef)
    (command : ProviderCommand) (random : ℚ) (now : Time) :
    DemoProvider × Except ProviderException ProviderCommandResult :=
  match provider.require ref with
  | none => (provider, .error (.providerError PROVIDER_UNAVAILABLE))
  | some device =>
      if device.availability = .offline then
        (provider, .error (.providerError PROVIDER_UNAVAILABLE))
      else if 0 < provider.failureRate ∧ random < provider.failureRate then
        (provider, .error (.providerError PROVIDER_UNAVAILABLE))
      else
        let applied := { device with state := apply device.state command }
        ({ provider with devices := provider.devices.set ref.providerDeviceId applied },
          .ok ⟨.applied, some (snapshot applied now), none⟩)

end Homeflow.Demo
