import Homeflow.Commands.Models

namespace Homeflow

structure ActionSpec where
  requiredCapability : Capability
  paramsModel : ParamsModel
  baseRisk : RiskClass

def ACTION_SPECS : Action → ActionSpec
  | .setPower => ⟨.power, .onOffParams, .low⟩
  | .setBrightness => ⟨.brightness, .brightnessParams, .low⟩
  | .setVolume => ⟨.volume, .volumeParams, .low⟩
  | .setPlayback => ⟨.mediaPlayback, .playbackParams, .low⟩
  | .setTargetTemperature => ⟨.targetTemperature, .targetTemperatureParams, .medium⟩
  | .setHeater => ⟨.heating, .onOffParams, .medium⟩
  | .setFilter => ⟨.filter, .onOffParams, .medium⟩
  | .setBubbles => ⟨.bubbles, .onOffParams, .medium⟩
  | .setControlPanelLock => ⟨.controlPanelLock, .onOffParams, .medium⟩
  | .setLockState => ⟨.lock, .lockStateParams, .medium⟩
  | .unlatch => ⟨.unlatch, .noParams, .high⟩

-- A lock action reaches these two functions with lock params only: the schema of
-- its spec admits nothing else, which is what the source asserts.
def classify : Action → CommandParams → RiskClass
  | .setLockState, .lockState desired => if desired.val = .unlocked then .high else .medium
  | action, _ => (ACTION_SPECS action).baseRisk

def requiredCapabilityFor : Action → CommandParams → Capability
  | .setLockState, .lockState desired =>
      if desired.val = .unlocked then .unlock else (ACTION_SPECS .setLockState).requiredCapability
  | action, _ => (ACTION_SPECS action).requiredCapability

-- The tolerance for a reported setpoint, in degrees: what 0.05 stands for.
def TEMPERATURE_EPSILON_C : ℚ := PyFloat.toDouble (1 / 20)

-- Whether a reported setpoint is as good as the requested one.
def isNear (target : PyFloat) (celsius : ℚ) : Bool :=
  (target.minus (.finite celsius)).abs.le (.finite TEMPERATURE_EPSILON_C)

def compare [DecidableEq α] (observed : Option α) (expected : α) : Option Bool :=
  observed.map fun value => value = expected

-- None: the outcome cannot be read off the state, as for a momentary action. How setpoints
-- are compared is left open.
def desiredMatchesBy (near : PyFloat → ℚ → Bool) :
    Action → CommandParams → DeviceState → Option Bool
  | .setPower, .onOff on, state => compare state.power on
  | .setBrightness, .brightness value, state => compare state.brightness value
  | .setVolume, .volume value, state => compare state.volume value
  | .setPlayback, .playback .play, state => compare state.playback .playing
  | .setPlayback, .playback .pause, state => compare state.playback .paused
  | .setTargetTemperature, .targetTemperature celsius, state =>
      state.targetTemperatureC.map fun target => near target celsius.val
  | .setHeater, .onOff on, state => compare state.heater on
  | .setFilter, .onOff on, state => compare state.filterPump on
  | .setBubbles, .onOff on, state => compare state.bubbles on
  | .setControlPanelLock, .onOff on, state => compare state.controlPanelLock on
  | .setLockState, .lockState desired, state => compare state.lockState desired.val
  | _, _, _ => none

def desiredMatches : Action → CommandParams → DeviceState → Option Bool := desiredMatchesBy isNear

theorem desiredMatchesBy_target {near : PyFloat → ℚ → Bool} (celsius : Setpoint)
    (state : DeviceState) (target : PyFloat) (htarget : state.targetTemperatureC = some target) :
    desiredMatchesBy near .setTargetTemperature (.targetTemperature celsius) state = some true ↔
      near target celsius.val = true := by
  simp [desiredMatchesBy, htarget]

end Homeflow
