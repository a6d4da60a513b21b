import Homeflow.Devices.Models
import Homeflow.Lib.Json
import Mathlib.Data.Int.Bitwise

namespace Homeflow.HomeAssistant

def FEATURE_PAUSE : Int := 1
def FEATURE_VOLUME_SET : Int := 4
def FEATURE_PREVIOUS_TRACK : Int := 16
def FEATURE_NEXT_TRACK : Int := 32
def FEATURE_PLAY : Int := 16384

def HA_BRIGHTNESS_MAX : ℚ := 255

def UNAVAILABLE : String := "unavailable"
def UNKNOWN : String := "unknown"

-- A lock in mid-movement is no fact about the door yet.
def LOCK_STATES : String → Option LockState
  | "locked" => some .locked
  | "unlocked" | "open" => some .unlocked
  | "opening" | "locking" | "unlocking" | "jammed" => some .unknown
  | _ => none

def PLAYBACK_STATES : String → Option PlaybackState
  | "playing" | "buffering" => some .playing
  | "paused" => some .paused
  | "idle" | "standby" | "off" => some .stopped
  | _ => none

-- A pair of names with a dot between them, as in light.kitchen.
def entityIdPattern (text : String) : Bool :=
  let isName (symbol : Char) : Bool := symbol.isLower ∨ symbol = '_'
  match text.toList.span isName with
  | (domain, '.' :: object) =>
      !domain.isEmpty && !object.isEmpty && object.all fun symbol => isName symbol || symbol.isDigit
  | _ => false

-- One entity as it is reported. The attributes can hold anything.
structure HaEntity where
  entityId : String
  state : String
  attributes : List (String × Json) := []
  entityId_bounds : 3 ≤ entityId.length ∧ entityId.length ≤ 255
  entityId_pattern : entityIdPattern entityId = true
  state_le : state.length ≤ 255

-- What reading an entity raises: an integer that no float can hold, or a value the
-- canonical state does not take.
inductive EntityError where
  | overflow | validation
deriving DecidableEq, Repr

-- The integers from here on are rounded beyond the largest float.
def FLOAT_OVERFLOW : Int := 2 ^ 1024 - 2 ^ 970

namespace HaEntity

-- model_validate. None: a ValidationError.
def validate : Json → Option HaEntity
  | .obj members =>
      match Json.member? members "entity_id", Json.member? members "state",
          (Json.member? members "attributes").getD (.obj []) with
      | some (.str entityId), some (.str state), .obj attributes =>
          if h : ((3 ≤ entityId.length ∧ entityId.length ≤ 255) ∧ entityIdPattern entityId = true) ∧
              state.length ≤ 255 then
            some ⟨entityId, state, attributes, h.1.1, h.1.2, h.2⟩
          else none
      | _, _, _ => none
  | _ => none

variable (entity : HaEntity)

def domain : String := String.ofList (entity.entityId.toList.takeWhile (· ≠ '.'))

-- An attribute only if it really is a finite number, and then as a float.
def number (key : String) : Except EntityError (Option ℚ) :=
  match Json.member? entity.attributes key with
  | some (.int value) =>
      if -FLOAT_OVERFLOW < value ∧ value < FLOAT_OVERFLOW then .ok (some (PyFloat.toDouble value))
      else .error .overflow
  | some (.float (.finite value)) => .ok (some value)
  | _ => .ok none

def features : Int :=
  match Json.member? entity.attributes "supported_features" with
  | some (.int value) => value
  | _ => 0

def text (key : String) (limit : Nat := 120) : Option String :=
  match Json.member? entity.attributes key with
  | some (.str value) => if value = "" then none else some (String.ofList (value.toList.take limit))
  | _ => none

end HaEntity

-- What one entity becomes, before the operator's release is applied.
structure Mapping where
  kind : DeviceKind
  capabilities : List Capability
  -- The ones that appear only once the operator releases the domain.
  writable : List Capability
  constraints : DeviceConstraints := {}

section Mappers

variable (entity : HaEntity)

def light : Mapping :=
  let dimmable : Bool := match Json.member? entity.attributes "supported_color_modes" with
    | some (.arr modes) => modes.any fun mode => match mode with
        | .str name => name ≠ "onoff" ∧ name ≠ "unknown"
        | _ => false
    | _ => false
  let capabilities := .power :: if dimmable then [.brightness] else []
  { kind := .light, capabilities, writable := capabilities }

def switch : Mapping := { kind := .switch, capabilities := [.power], writable := [.power] }

def mediaPlayer : Mapping :=
  let has (flags : Int) : Bool := entity.features.land flags ≠ 0
  let capabilities : List Capability :=
    (if has (FEATURE_PLAY.lor FEATURE_PAUSE) then [.mediaPlayback] else []) ++
    (if has FEATURE_NEXT_TRACK then [.mediaNext] else []) ++
    (if has FEATURE_PREVIOUS_TRACK then [.mediaPrevious] else []) ++
    (if has FEATURE_VOLUME_SET then [.volume] else [])
  { kind := .mediaPlayer, capabilities, writable := capabilities }

-- State only: no operator can release a door.
def lock : Mapping := { kind := .lock, capabilities := [], writable := [] }

def climate : Except EntityError Mapping := do
  let current ← entity.number "current_temperature"
  let humidity ← entity.number "humidity"
  -- The second attribute is looked at only without the first.
  let humid ← if humidity.isSome then pure true else (·.isSome) <$> entity.number "current_humidity"
  let readable : List Capability :=
    (if current.isSome then [.currentTemperature] else []) ++ (if humid then [.humidity] else [])
  if (← entity.number "temperature").isSome then
    let minimum ← entity.number "min_temp"
    let maximum ← entity.number "max_temp"
    let step ← entity.number "target_temp_step"
    return {
      kind := .thermostat
      capabilities := readable ++ [.targetTemperature]
      writable := [.targetTemperature]
      constraints := {
        targetTemperatureMinC := minimum.map .finite
        targetTemperatureMaxC := maximum.map .finite
        targetTemperatureStepC := some (.finite (match step with
          | some value => if value = 0 then 1 / 2 else value
          | none => 1 / 2)) } }
  else return { kind := .thermostat, capabilities := readable, writable := [] }

-- Of the sensors only a temperature has a place on a home screen.
def sensor : Option Mapping :=
  match Json.member? entity.attributes "device_class" with
  | some (.str "temperature") =>
      some { kind := .sensor, capabilities := [.currentTemperature], writable := [] }
  | _ => none

-- None: HomeFlow has no use for the entity.
def describe : Except EntityError (Option Mapping) :=
  match entity.domain with
  | "light" => .ok (some (light entity))
  | "switch" => .ok (some switch)
  | "media_player" => .ok (some (mediaPlayer entity))
  | "lock" => .ok (some lock)
  | "climate" => (climate entity).map some
  | "sensor" => .ok (sensor entity)
  | _ => .ok none

end Mappers

-- The domains an operator may release for writing. The lock is absent on purpose.
def RELEASABLE_DOMAINS : List String := ["light", "switch", "media_player", "climate"]

def availability (entity : HaEntity) : Availability :=
  if entity.state = UNAVAILABLE then .offline
  else if entity.state = UNKNOWN then .unknown
  else .online

-- round(share) as a field of the canonical state that counts percent.
def percent : Option PyFloat → Except EntityError (Option Percent)
  | none => .ok none
  | some (.finite share) =>
      match Percent.validate (PyFloat.roundHalfEven share) with
      | some percent => .ok (some percent)
      | none => .error .validation
  -- No integer is next to it.
  | some _ => .error .overflow

def brightnessShare (brightness : ℚ) : PyFloat :=
  ((PyFloat.finite brightness).times 100).dividedBy HA_BRIGHTNESS_MAX

def volumeShare (volume : ℚ) : PyFloat := (PyFloat.finite volume).times 100

section Normalise

-- What the text of a float stands for. None: a ValueError.
variable (float : String → Option PyFloat)

-- An unreported value stays absent rather than becoming a default.
def normalise (entity : HaEntity) (kind : DeviceKind) : Except EntityError DeviceState :=
  if entity.state = UNAVAILABLE ∨ entity.state = UNKNOWN then .ok {}
  else
    match kind with
    | .light | .switch => do
        let brightness ← percent ((← entity.number "brightness").map brightnessShare)
        return { power := some (entity.state = "on"), brightness }
    | .mediaPlayer => do
        let volume ← percent ((← entity.number "volume_level").map volumeShare)
        return {
          playback := some ((PLAYBACK_STATES entity.state).getD .unknown)
          volume
          programName := entity.text "media_title" }
    | .lock => .ok { lockState := some ((LOCK_STATES entity.state).getD .unknown) }
    | .thermostat => do
        let current ← entity.number "current_temperature"
        let target ← entity.number "temperature"
        return {
          currentTemperatureC := current.map .finite
          targetTemperatureC := target.map .finite
          heater := if entity.state = "off" then none
            else some (entity.state = "heat" ∨ entity.state = "heat_cool") }
    | .sensor => .ok { currentTemperatureC := float entity.state }
    | _ => .ok {}

end Normalise

-- What to call it on screen.
def displayName (entity : HaEntity) : String :=
  (entity.text "friendly_name" 80).getD
    (String.ofList ((entity.entityId.toList.dropWhile (· ≠ '.')).drop 1))

end Homeflow.HomeAssistant
