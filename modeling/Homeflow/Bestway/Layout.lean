import Homeflow.Bestway.Datapoints

namespace Homeflow.Bestway

def Datapoint.value : Datapoint → String
  | .currentTemperature => "CURRENT_TEMPERATURE"
  | .targetTemperature => "TARGET_TEMPERATURE"
  | .heater => "HEATER"
  | .filterPump => "FILTER_PUMP"
  | .bubbles => "BUBBLES"
  | .controlPanelLock => "CONTROL_PANEL_LOCK"
  | .unitIsFahrenheit => "UNIT_IS_FAHRENHEIT"

def ALL_DATAPOINTS : List Datapoint :=
  [.currentTemperature, .targetTemperature, .heater, .filterPump, .bubbles, .controlPanelLock,
    .unitIsFahrenheit]

def BOOLEAN_DATAPOINTS : List Datapoint :=
  [.heater, .filterPump, .bubbles, .controlPanelLock, .unitIsFahrenheit]

-- The datapoint of a name. None: a ValueError.
def Datapoint.ofValue (name : String) : Option Datapoint :=
  ALL_DATAPOINTS.find? fun datapoint => datapoint.value = name

-- The fields of a layout before they are checked. Its locations are read with a
-- non-negative offset and one of the eight bits.
structure Layout where
  minimumPayloadLength : Nat
  locations : OrderedDict Datapoint Location
  targetTemperatureMinC : PyFloat
  targetTemperatureMaxC : PyFloat
  targetTemperatureStepC : PyFloat
  controlValuesOffset : Option Int := none
  controlValuesLength : Option Int := none
  controlFlagBits : OrderedDict Datapoint Int := .empty
  trusted : Bool := false
  writable : List Datapoint := []

-- model_validate. None: a ValidationError.
def DatapointProfile.validate (layout : Layout) : Option DatapointProfile :=
  if h : (1 ≤ layout.minimumPayloadLength ∧ layout.minimumPayloadLength ≤ MAX_PAYLOAD_BYTES) ∧
      (∀ entry ∈ layout.locations.entries, entry.2.offset < MAX_PAYLOAD_BYTES) ∧
      (∀ limit ∈ [layout.targetTemperatureMinC, layout.targetTemperatureMaxC],
        (PyFloat.finite 0).le limit ∧ limit.le (.finite 60)) ∧
      (layout.targetTemperatureStepC.le (.finite 0) = false ∧
        layout.targetTemperatureStepC.le (.finite 5)) ∧
      layout.targetTemperatureMaxC.le layout.targetTemperatureMinC = false ∧
      ∀ datapoint ∈ layout.writable, datapoint ≠ .unitIsFahrenheit ∧
        (layout.locations.get? datapoint).isSome ∧
        (layout.controlFlagBits.get? datapoint).isSome then
    some { layout with
      minimum_bounds := h.1
      offsets_lt := h.2.1
      limits_bounded := h.2.2.1
      step_bounded := h.2.2.2.1
      range_ordered := h.2.2.2.2.1
      writable_known := h.2.2.2.2.2 }
  else none

-- model_dump
def DatapointProfile.dump (profile : DatapointProfile) : Layout := { profile with }

def builtinProfile : String → Option DatapointProfile
  | "airjet-candidate" => some CANDIDATE_PROFILE
  | "airjet-19byte" => some AIRJET_19BYTE_PROFILE
  | _ => none

-- What the operator decides about the controller.
structure Settings where
  bestwayProfile : String := "airjet-candidate"
  bestwayProfilePath : Option String := none
  bestwayTrustProfile : Bool := false
  bestwayWriteEnabled : List String := []

section Build

-- What reading a layout file and converting its fields to their types comes to.
variable (read : String → Option Layout)

def loadProfile (path : String) : Option DatapointProfile :=
  (read path).bind DatapointProfile.validate

def baseProfile (settings : Settings) : Option DatapointProfile :=
  match settings.bestwayProfilePath with
  | some path => loadProfile read path
  | none => builtinProfile settings.bestwayProfile

-- The layout is validated again with the operator's decisions in it.
def buildBestwayProfile (settings : Settings) : Option DatapointProfile := do
  let base ← baseProfile read settings
  let writable ← settings.bestwayWriteEnabled.mapM Datapoint.ofValue
  DatapointProfile.validate { base.dump with trusted := settings.bestwayTrustProfile, writable }

end Build

end Homeflow.Bestway
