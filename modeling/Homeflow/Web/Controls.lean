import Homeflow.Schedules.Models
import Homeflow.Web.App
import Homeflow.Web.Dial

-- The controls on the card of a device. The texts beside them are left out.
namespace Homeflow.Web

-- What may be put on a timer, and for how long.
def TIMER_HOURS : List ℚ := [1 / 2, 1, 3 / 2, 2, 3, 4, 6, 8, 12, 24]
def TIMED : List (Capability × Action) := [(.heating, .setHeater), (.filter, .setFilter)]

-- A range input. Its values are a whole number of steps above the minimum.
structure Slider where
  action : Action
  field : String
  min : ℚ
  max : ℚ
  step : ℚ

inductive Control where
  -- A press asks for the action with these parameters.
  | button (action : Action) (parameters : List (String × Json))
  | slider (slider : Slider)
  | dial (options : DialOptions)
  -- The hours and the kind are picked, or an armed timer is called off.
  | timer (action : Action)
  | cancelTimer (id : Uuid)

structure Shown where
  control : Control
  disabled : Bool

-- What the page knows beside the device.
structure Context where
  isBusy : Action → Bool
  isTimerBusy : Action → Bool
  desiredFor : Action → Option Bool
  schedulesFor : List Schedule

def has (device : Device) (capability : Capability) : Bool :=
  device.capabilities.contains capability

-- No other float reaches the client: JSON has no text for it.
def number (value : Option PyFloat) : Option ℚ :=
  match value with
  | some (.finite value) => some value
  | _ => none

-- The step of a setpoint, where the device does not say.
def DEFAULT_STEP : ℚ := 1 / 2

section Bodies

variable (device : Device) (context : Context)

def offline : Bool := device.availability = .offline

-- A press asks for the opposite of what is shown, the pending wish before the state.
def toggle (action : Action) (value disabled : Bool) : Shown :=
  ⟨.button action [("on", .bool !((context.desiredFor action).getD value))], disabled⟩

def timerSection : List Shown :=
  (TIMED.filter fun entry => has device entry.1).map fun (_, action) =>
    let busy := context.isTimerBusy action
    match context.schedulesFor.find? fun item => item.action = action with
    | some timer => ⟨.cancelTimer timer.id, busy⟩
    | none => ⟨.timer action, offline device || busy⟩

-- One function of the tub. Without its capability it is shown, and cannot be pressed.
def functionTile (capability : Capability) (action : Action) (value : Option Bool) : List Shown :=
  match value with
  | some value =>
      if has device capability then [toggle context action value (offline device)] else []
  | none => []

def poolBody : List Shown :=
  let target := number device.state.targetTemperatureC
  let dial : List Shown :=
    match number device.constraints.targetTemperatureMinC,
      number device.constraints.targetTemperatureMaxC, target with
    | some min, some max, some value =>
        if has device .targetTemperature then
          [⟨.dial
            { value, min, max
              step := (number device.constraints.targetTemperatureStepC).getD DEFAULT_STEP
              disabled := offline device }, offline device⟩]
        else []
    | _, _, _ => []
  dial ++ functionTile device context .heating .setHeater device.state.heater ++
    functionTile device context .filter .setFilter device.state.filterPump ++
    functionTile device context .bubbles .setBubbles device.state.bubbles ++
    functionTile device context .controlPanelLock .setControlPanelLock
      device.state.controlPanelLock ++
    timerSection device context

-- A value in percent. Without its capability it is shown, and cannot be moved.
def percentRow (capability : Capability) (action : Action) (field : String)
    (value : Option Percent) : List Shown :=
  match value with
  | some _ =>
      if has device capability then
        [⟨.slider { action, field, min := 0, max := 100, step := 1 }, offline device⟩]
      else []
  | none => []

def lightBody : List Shown :=
  (match device.state.power with
    | some power =>
        if has device .power then [toggle context .setPower power (offline device)] else []
    | none => []) ++
  percentRow device .brightness .setBrightness "brightness" device.state.brightness

def thermostatBody : List Shown :=
  match number device.state.targetTemperatureC, number device.constraints.targetTemperatureMinC,
    number device.constraints.targetTemperatureMaxC with
  | some _, some min, some max =>
      if has device .targetTemperature then
        [⟨.slider
          { action := .setTargetTemperature, field := "celsius", min, max
            step := (number device.constraints.targetTemperatureStepC).getD DEFAULT_STEP },
          offline device⟩]
      else []
  | _, _, _ => []

def mediaBody : List Shown :=
  (match device.state.playback with
    | some playback =>
        if has device .mediaPlayback then
          [⟨.button .setPlayback
            [("playback", .str (if playback = .playing then "PAUSE" else "PLAY"))],
            offline device || context.isBusy .setPlayback⟩]
        else []
    | none => []) ++
  percentRow device .volume .setVolume "volume" device.state.volume

-- The button to unlock is there, and never enabled: it asks for nothing.
def lockBody : List Shown :=
  if has device .lock then
    [⟨.button .setLockState [("desired", .str "LOCKED")],
      offline device || context.isBusy .setLockState || device.state.lockState = some .locked⟩]
  else []

-- Of other kinds there are no controls.
def renderDevice : List Shown :=
  match device.kind with
  | .pool => poolBody device context
  | .thermostat => thermostatBody device
  | .light | .switch => lightBody device context
  | .mediaPlayer => mediaBody device context
  | .lock => lockBody device context
  | _ => []

end Bodies

-- JSON.stringify of a number.
def jsonNumber (value : ℚ) : Json :=
  if value.den = 1 then .int value.num else .float (.finite value)

-- The values the browser lets a range input take: steps up from the minimum, a step that is not
-- positive counting as one, and the minimum alone where the maximum is below it.
def Slider.Takes (slider : Slider) (value : ℚ) : Prop :=
  if slider.max < slider.min then value = slider.min
  else ∃ steps : Nat, value = slider.min + steps * (if 0 < slider.step then slider.step else 1) ∧
    value ≤ slider.max

-- The requests that a control can make, however it is used.
def Control.Asks (deviceId : Uuid) : Control → CommandRequest → Prop
  | .button action parameters, request => request = ⟨deviceId, action, parameters⟩
  | .slider input, request => ∃ value, input.Takes value ∧
      request = ⟨deviceId, input.action, [(input.field, jsonNumber value)]⟩
  | .dial options, request => ∃ gestures value, value ∈ (Dial.create options).commits gestures ∧
      request = ⟨deviceId, .setTargetTemperature, [("celsius", jsonNumber value)]⟩
  | .timer _, _ | .cancelTimer _, _ => False

end Homeflow.Web
