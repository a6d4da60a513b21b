import Homeflow.Bestway.Protocol
import Homeflow.Lib.OrderedDict
import Homeflow.Lib.PyFloat

namespace Homeflow.Bestway

inductive Datapoint where
  | currentTemperature | targetTemperature
  | heater | filterPump | bubbles | controlPanelLock
  -- Set when the controller reports temperatures in Fahrenheit.
  | unitIsFahrenheit
deriving DecidableEq, Repr

instance eight_neZero : NeZero (8 : Nat) := ⟨by decide⟩

-- A whole unsigned byte of the status block, or one bit of one.
inductive Location where
  | byte (offset : Nat)
  | bit (offset : Nat) (bit : Fin 8)
deriving DecidableEq, Repr

def Location.offset : Location → Nat
  | .byte offset => offset
  | .bit offset _ => offset

-- Why a layout cannot be used as given.
inductive ProfileError where
  | tooShort
  | pastTheEnd (datapoint : Datapoint)
  | notPermitted (datapoint : Datapoint)
  | noControlValues
  | noStatusBlock
  | noFlagBit (datapoint : Datapoint)
  | notInLayout (datapoint : Datapoint)
  | outsideBlock (datapoint : Datapoint)
  | doesNotFit (datapoint : Datapoint)
deriving DecidableEq, Repr

-- An int or a bool. Python compares the two by number.
inductive Value where
  | int (number : Int)
  | bool (flag : Bool)
deriving DecidableEq, Repr

def Value.number : Value → Int
  | .int number => number
  | .bool flag => if flag then 1 else 0

def Value.truth (value : Value) : Bool := value.number ≠ 0

def Value.same (value other : Value) : Bool := value.number = other.number

-- A claimed mapping from status bytes to canonical values.
structure DatapointProfile where
  minimumPayloadLength : Nat
  locations : OrderedDict Datapoint Location
  targetTemperatureMinC : PyFloat
  targetTemperatureMaxC : PyFloat
  targetTemperatureStepC : PyFloat
  controlValuesOffset : Option Int := none
  controlValuesLength : Option Int := none
  controlFlagBits : OrderedDict Datapoint Int := .empty
  trusted : Bool := false
  writable : List Datapoint := []
  minimum_bounds : 1 ≤ minimumPayloadLength ∧ minimumPayloadLength ≤ MAX_PAYLOAD_BYTES
  offsets_lt : ∀ entry ∈ locations.entries, entry.2.offset < MAX_PAYLOAD_BYTES
  limits_bounded : ∀ limit ∈ [targetTemperatureMinC, targetTemperatureMaxC],
    (PyFloat.finite 0).le limit ∧ limit.le (.finite 60)
  step_bounded : targetTemperatureStepC.le (.finite 0) = false ∧
    targetTemperatureStepC.le (.finite 5)
  range_ordered : targetTemperatureMaxC.le targetTemperatureMinC = false
  writable_known : ∀ datapoint ∈ writable, datapoint ≠ .unitIsFahrenheit ∧
    (locations.get? datapoint).isSome ∧ (controlFlagBits.get? datapoint).isSome

-- data[start:stop] of a Python sequence, where a negative index counts from the end.
def slice (data : Bytes) (start stop : Int) : Bytes :=
  let index (position : Int) : Nat :=
    (if position < 0 then max (position + data.length) 0 else position).toNat
  (data.take (index stop)).drop (index start)

namespace DatapointProfile

variable (profile : DatapointProfile)

def mayWrite (datapoint : Datapoint) : Bool := profile.trusted ∧ datapoint ∈ profile.writable

def readLocation (payload : Bytes) : Location → Value
  | .byte offset => .int (payload.getD offset 0).toNat
  | .bit offset bit => .bool ((payload.getD offset 0).toNat >>> bit.val &&& 1 ≠ 0)

-- The decoded datapoints, looked up by name.
def decode (payload : Bytes) : Except ProfileError (Datapoint → Option Value) :=
  if payload.length < profile.minimumPayloadLength then .error .tooShort
  else
    match profile.locations.entries.find? fun entry => entry.2.offset ≥ payload.length with
    | some entry => .error (.pastTheEnd entry.1)
    | none =>
        .ok fun datapoint => (profile.locations.get? datapoint).map (readLocation payload)

-- One field of the reported block is changed and nothing else.
def writeLocation (datapoint : Datapoint) (values : Bytes) (index : Nat) (value : Value) :
    Location → Except ProfileError Bytes
  | .bit _ bit =>
      let mask := (1 : UInt8) <<< UInt8.ofNat bit.val
      .ok (values.modify index fun raw =>
        if value.truth then raw ||| mask else raw &&& (0xFF ^^^ mask))
  | .byte _ =>
      if ¬(0 ≤ value.number ∧ value.number ≤ 0xFF) then .error (.doesNotFit datapoint)
      else .ok (values.set index (UInt8.ofNat value.number.toNat))

-- The attribute flags and values of a control request. None: a shift by a negative
-- number, which the interpreter refuses.
def encodeControl (datapoint : Datapoint) (value : Value) (basePayload : Bytes) :
    Except ProfileError (Option (Nat × Bytes)) := do
  if ¬profile.mayWrite datapoint then throw (.notPermitted datapoint)
  let (some start, some length) := (profile.controlValuesOffset, profile.controlValuesLength)
    | throw .noControlValues
  let stop := start + length
  if basePayload.length < stop then throw .noStatusBlock
  let some flagBit := profile.controlFlagBits.get? datapoint
    | throw (.noFlagBit datapoint)
  let some location := profile.locations.get? datapoint
    | throw (.notInLayout datapoint)
  let values := slice basePayload start stop
  let index := location.offset - start
  if ¬(0 ≤ index ∧ index < values.length) then throw (.outsideBlock datapoint)
  let written ← writeLocation datapoint values index.toNat value location
  return if flagBit < 0 then none else some (1 <<< flagBit.toNat, written)

end DatapointProfile

-- A layout taken from community documentation: a starting point, never a fact.
def CANDIDATE_PROFILE : DatapointProfile where
  minimumPayloadLength := 12
  locations := ⟨[(.currentTemperature, .byte 6), (.targetTemperature, .byte 5),
    (.heater, .bit 4 2), (.filterPump, .bit 4 1), (.bubbles, .bit 4 0),
    (.controlPanelLock, .bit 4 3), (.unitIsFahrenheit, .bit 4 4)], by decide⟩
  controlValuesOffset := some 4
  controlValuesLength := some 8
  controlFlagBits := ⟨[(.bubbles, 0), (.filterPump, 1), (.heater, 2), (.controlPanelLock, 3),
    (.targetTemperature, 7)], by decide⟩
  targetTemperatureMinC := .finite 20
  targetTemperatureMaxC := .finite 40
  targetTemperatureStepC := .finite 1
  minimum_bounds := by decide
  offsets_lt := by decide
  limits_bounded := by decide +kernel
  step_bounded := by decide +kernel
  range_ordered := by decide +kernel
  writable_known := by decide

-- The layout of a controller that reports nineteen bytes. Which of its datapoints may be
-- written is for the operator to say.
def AIRJET_19BYTE_PROFILE : DatapointProfile where
  minimumPayloadLength := 19
  locations := ⟨[(.targetTemperature, .byte 2), (.currentTemperature, .byte 15),
    (.heater, .bit 1 1), (.filterPump, .bit 1 2), (.bubbles, .bit 1 3),
    (.controlPanelLock, .bit 1 4)], by decide⟩
  targetTemperatureMinC := .finite 20
  targetTemperatureMaxC := .finite 40
  targetTemperatureStepC := .finite 1
  controlValuesOffset := some 1
  controlValuesLength := some 14
  controlFlagBits := ⟨[(.heater, 1), (.filterPump, 2), (.bubbles, 3), (.controlPanelLock, 4),
    (.targetTemperature, 7)], by decide⟩
  minimum_bounds := by decide
  offsets_lt := by decide
  limits_bounded := by decide +kernel
  step_bounded := by decide +kernel
  range_ordered := by decide +kernel
  writable_known := by decide

-- Rounded to one decimal, a tie to the even digit.
def toCelsius (value : ℚ) (fahrenheit : Bool) : PyFloat :=
  if fahrenheit then .finite (PyFloat.roundHalfEven ((value - 32) * 5 / 9 * 10) / 10)
  else .finite value

def fromCelsius (value : ℚ) (fahrenheit : Bool) : Int :=
  PyFloat.roundHalfEven (if fahrenheit then value * 9 / 5 + 32 else value)

end Homeflow.Bestway
