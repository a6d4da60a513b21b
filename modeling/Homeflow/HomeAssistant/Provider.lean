import Homeflow.HomeAssistant.Client
import Homeflow.Lib.OrderedDict

namespace Homeflow.HomeAssistant

def PROVIDER_NAME : String := "home_assistant"
def DEFAULT_CONFIRM_ATTEMPTS : Nat := 4

def refFor (entityId : String) : ProviderDeviceRef := ⟨PROVIDER_NAME, entityId⟩

structure HomeAssistantProvider where
  releasedDomains : List String := []
  confirmAttempts : Nat := DEFAULT_CONFIRM_ATTEMPTS
  -- Filled by discovery: an entity that is not in here cannot be commanded.
  kinds : OrderedDict String DeviceKind := .empty

-- One service call, with what the entity should read as afterwards.
structure Call where
  service : String
  data : List (String × Json) := []
  expected : DeviceState := {}

-- None: a ProviderRejectedError.
def callFor (command : ProviderCommand) : Option Call :=
  match command.action, command.params with
  | .setPower, .onOff on =>
      some { service := if on then "turn_on" else "turn_off", expected := { power := some on } }
  | .setBrightness, .brightness brightness =>
      -- Zero brightness is an error on some platforms.
      if brightness.val = 0 then
        some { service := "turn_off", expected := { power := some false } }
      else
        some {
          service := "turn_on"
          data := [("brightness_pct", .int brightness.val)]
          expected := { power := some true, brightness := some brightness } }
  | .setVolume, .volume volume =>
      some {
        service := "volume_set"
        data := [("volume_level", .float (.finite (PyFloat.toDouble (volume.val / 100))))]
        expected := { volume := some volume } }
  | .setPlayback, .playback playback =>
      some { service := if playback = .play then "media_play" else "media_pause" }
  | .setTargetTemperature, .targetTemperature celsius =>
      some {
        service := "set_temperature"
        data := [("temperature", .float (.finite celsius.val))]
        expected := { targetTemperatureC := some (.finite celsius.val) } }
  | _, _ => none

section Matches

-- Of two floats: how far apart they may be. It is what 0.51 stands for.
def MATCH_TOLERANCE : ℚ := PyFloat.toDouble (51 / 100)

def matchesFloat (wanted seen : Option PyFloat) : Bool :=
  match wanted, seen with
  | none, _ => true
  | some _, none => false
  | some value, some seen => !(PyFloat.finite MATCH_TOLERANCE).lt (seen.minus value).abs

-- Percent is a lossy view of the wire, so neighbouring values are the same instruction.
def matchesBrightness (wanted seen : Option Percent) : Bool :=
  match wanted, seen with
  | none, _ => true
  | some _, none => false
  | some value, some seen => |seen.val - value.val| ≤ 1

def matchesField {α : Type} [DecidableEq α] (wanted seen : Option α) : Bool :=
  wanted.isNone || wanted = seen

-- Only the fields the command was about are compared.
def matchesState (expected observed : DeviceState) : Bool :=
  matchesField expected.power observed.power &&
  matchesBrightness expected.brightness observed.brightness &&
  matchesFloat expected.currentTemperatureC observed.currentTemperatureC &&
  matchesFloat expected.targetTemperatureC observed.targetTemperatureC &&
  matchesField expected.heater observed.heater &&
  matchesField expected.filterPump observed.filterPump &&
  matchesField expected.filterLastStartedAt observed.filterLastStartedAt &&
  matchesField expected.bubbles observed.bubbles &&
  matchesField expected.controlPanelLock observed.controlPanelLock &&
  matchesField expected.lockState observed.lockState &&
  matchesField expected.volume observed.volume &&
  matchesField expected.playback observed.playback &&
  matchesField expected.program observed.program &&
  matchesField expected.programName observed.programName &&
  matchesField expected.remainingSeconds observed.remainingSeconds

end Matches

section Reading

-- What the text of a float stands for. None: a ValueError.
variable (float : String → Option PyFloat)

-- Does the entity now read the way the command asked for?
def entityMatches (entity : HaEntity) (kind : DeviceKind) (expected : DeviceState) :
    Except EntityError Bool :=
  -- Nothing to check against, as for a playback command.
  if expected = {} then .ok true
  else do
    let observed ← normalise float entity kind
    return matchesState expected observed

-- An entity that is no device here would read as a sensor.
def HomeAssistantProvider.snapshot (provider : HomeAssistantProvider) (entity : HaEntity)
    (now : Time) : Except EntityError ProviderState := do
  let kind := (provider.kinds.get? entity.entityId).getD .sensor
  let state ← normalise float entity kind
  return { state, availability := availability entity, observedAt := now }

end Reading

end Homeflow.HomeAssistant
