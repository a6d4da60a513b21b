import Homeflow.Devices.Models
import Homeflow.Lib.Json

namespace Homeflow

inductive RiskClass where
  | low | medium | high
deriving DecidableEq, Repr

inductive CommandStatus where
  | pending | running | succeeded | failed | timedOut | cancelled | superseded
  -- The device may or may not have executed the command.
  | unknown
deriving DecidableEq, Repr

inductive Action where
  | setPower | setBrightness | setVolume | setPlayback | setTargetTemperature
  | setHeater | setFilter | setBubbles | setControlPanelLock | setLockState | unlatch
deriving DecidableEq, Repr

def CommandStatus.value : CommandStatus → String
  | .pending => "PENDING"
  | .running => "RUNNING"
  | .succeeded => "SUCCEEDED"
  | .failed => "FAILED"
  | .timedOut => "TIMED_OUT"
  | .cancelled => "CANCELLED"
  | .superseded => "SUPERSEDED"
  | .unknown => "UNKNOWN"

def Action.value : Action → String
  | .setPower => "SET_POWER"
  | .setBrightness => "SET_BRIGHTNESS"
  | .setVolume => "SET_VOLUME"
  | .setPlayback => "SET_PLAYBACK"
  | .setTargetTemperature => "SET_TARGET_TEMPERATURE"
  | .setHeater => "SET_HEATER"
  | .setFilter => "SET_FILTER"
  | .setBubbles => "SET_BUBBLES"
  | .setControlPanelLock => "SET_CONTROL_PANEL_LOCK"
  | .setLockState => "SET_LOCK_STATE"
  | .unlatch => "UNLATCH"

inductive PlaybackCommand where
  | play | pause
deriving DecidableEq, Repr

-- The absolute sanity bounds of a setpoint: ge=0.0, le=60.0.
abbrev Setpoint := { celsius : ℚ // 0 ≤ celsius ∧ celsius ≤ 60 }

-- A desired lock state is LOCKED or UNLOCKED.
abbrev DesiredLock := { desired : LockState // desired ≠ .unknown }

inductive CommandParams where
  | onOff (on : Bool)
  | brightness (brightness : Percent)
  | volume (volume : Percent)
  | playback (playback : PlaybackCommand)
  | targetTemperature (celsius : Setpoint)
  | lockState (desired : DesiredLock)
  | noParams
deriving DecidableEq

inductive ParamsModel where
  | onOffParams | brightnessParams | volumeParams | playbackParams
  | targetTemperatureParams | lockStateParams | noParams
deriving DecidableEq, Repr

def CommandParams.model : CommandParams → ParamsModel
  | .onOff _ => .onOffParams
  | .brightness _ => .brightnessParams
  | .volume _ => .volumeParams
  | .playback _ => .playbackParams
  | .targetTemperature _ => .targetTemperatureParams
  | .lockState _ => .lockStateParams
  | .noParams => .noParams

-- The validation library's lax conversions of one raw value to a field's type.
-- Of these only the conversion of a bool to itself is relied on.
structure Coercion where
  bool : Json → Option Bool
  int : Json → Option Int
  float : Json → Option PyFloat
  bool_bool : ∀ value, bool (.bool value) = some value

def Setpoint.validate : PyFloat → Option Setpoint
  | .finite celsius =>
      if h : 0 ≤ celsius ∧ celsius ≤ 60 then some ⟨celsius, h⟩ else none
  | _ => none

def PlaybackCommand.ofJson : Json → Option PlaybackCommand
  | .str "PLAY" => some .play
  | .str "PAUSE" => some .pause
  | _ => none

-- UNKNOWN is a lock state, but never a desired one.
def DesiredLock.ofJson : Json → Option DesiredLock
  | .str "LOCKED" => some ⟨.locked, by decide⟩
  | .str "UNLOCKED" => some ⟨.unlocked, by decide⟩
  | _ => none

-- Every model forbids extra members, so a model with one field accepts exactly
-- the mappings with that one member.
def ParamsModel.validate (coercion : Coercion) (raw : List (String × Json)) :
    ParamsModel → Option CommandParams
  | .onOffParams => match raw with
      | [("on", value)] => (coercion.bool value).map .onOff
      | _ => none
  | .brightnessParams => match raw with
      | [("brightness", value)] =>
          ((coercion.int value).bind Percent.validate).map .brightness
      | _ => none
  | .volumeParams => match raw with
      | [("volume", value)] => ((coercion.int value).bind Percent.validate).map .volume
      | _ => none
  | .playbackParams => match raw with
      | [("playback", value)] => (PlaybackCommand.ofJson value).map .playback
      | _ => none
  | .targetTemperatureParams => match raw with
      | [("celsius", value)] =>
          ((coercion.float value).bind Setpoint.validate).map .targetTemperature
      | _ => none
  | .lockStateParams => match raw with
      | [("desired", value)] => (DesiredLock.ofJson value).map .lockState
      | _ => none
  | .noParams => match raw with
      | [] => some .noParams
      | _ => none

-- model_dump(mode="json")
def CommandParams.dump : CommandParams → List (String × Json)
  | .onOff on => [("on", .bool on)]
  | .brightness value => [("brightness", .int value.val)]
  | .volume value => [("volume", .int value.val)]
  | .playback .play => [("playback", .str "PLAY")]
  | .playback .pause => [("playback", .str "PAUSE")]
  | .targetTemperature celsius => [("celsius", .float (.finite celsius.val))]
  | .lockState ⟨.locked, _⟩ => [("desired", .str "LOCKED")]
  | .lockState ⟨.unlocked, _⟩ => [("desired", .str "UNLOCKED")]
  | .lockState ⟨.unknown, h⟩ => absurd rfl h
  | .noParams => []

-- An immutable record: every transition creates a new one.
structure Command where
  id : Uuid
  deviceId : Uuid
  requestedByUserId : Uuid
  requestedByClientId : Uuid
  action : Action
  parameters : List (String × Json)
  riskClass : RiskClass
  correlationId : String
  createdAt : Time
  expiresAt : Time
  startedAt : Option Time := none
  completedAt : Option Time := none
  status : CommandStatus := .pending
  failureCode : Option String := none

def Command.withStatus (command : Command) (status : CommandStatus) (moment : Time)
    (failureCode : Option String := none) : Command :=
  if status = .running then
    { command with status := status, failureCode := failureCode, startedAt := some moment }
  else
    { command with status := status, failureCode := failureCode, completedAt := some moment }

theorem ParamsModel.validate_onOff (coercion : Coercion) (on : Bool) :
    ParamsModel.onOffParams.validate coercion [("on", .bool on)] = some (.onOff on) := by
  simp [validate, coercion.bool_bool]

-- What is validated by a model is of that model.
theorem ParamsModel.validate_model {coercion : Coercion} {raw : List (String × Json)}
    {model : ParamsModel} {params : CommandParams} (h : model.validate coercion raw = some params) :
    params.model = model := by
  cases model with
  | noParams =>
      simp only [validate] at h
      split at h <;> cases h
      rfl
  | onOffParams | brightnessParams | volumeParams | playbackParams | targetTemperatureParams |
      lockStateParams =>
      simp only [validate] at h
      split at h
      · obtain ⟨value, -, rfl⟩ := Option.map_eq_some_iff.mp h
        rfl
      · cases h

end Homeflow
