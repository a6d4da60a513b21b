import Homeflow.Capabilities
import Homeflow.Lib.PyFloat

namespace Homeflow

inductive Availability where
  | online | offline | unknown
deriving DecidableEq, Repr

inductive LockState where
  | locked | unlocked | unknown
deriving DecidableEq, Repr

inductive PlaybackState where
  | playing | paused | stopped | unknown
deriving DecidableEq, Repr

inductive ProgramState where
  | idle | running | finished | unknown
deriving DecidableEq, Repr

inductive StateSource where
  | providerSnapshot | providerEvent | commandResult
deriving DecidableEq, Repr

-- The integers a field declared with ge=0 and le=100 can hold.
abbrev Percent := { value : Int // 0 ≤ value ∧ value ≤ 100 }

def Percent.validate (value : Int) : Option Percent :=
  if h : 0 ≤ value ∧ value ≤ 100 then some ⟨value, h⟩ else none

-- Every field is optional: none is "not reported".
structure DeviceState where
  power : Option Bool := none
  brightness : Option Percent := none
  currentTemperatureC : Option PyFloat := none
  targetTemperatureC : Option PyFloat := none
  heater : Option Bool := none
  filterPump : Option Bool := none
  filterLastStartedAt : Option Time := none
  bubbles : Option Bool := none
  controlPanelLock : Option Bool := none
  lockState : Option LockState := none
  volume : Option Percent := none
  playback : Option PlaybackState := none
  program : Option ProgramState := none
  programName : Option String := none
  remainingSeconds : Option Nat := none
deriving DecidableEq

-- The reported fields of the other state replace the held ones.
def DeviceState.mergedWith (state other : DeviceState) : DeviceState where
  power := other.power <|> state.power
  brightness := other.brightness <|> state.brightness
  currentTemperatureC := other.currentTemperatureC <|> state.currentTemperatureC
  targetTemperatureC := other.targetTemperatureC <|> state.targetTemperatureC
  heater := other.heater <|> state.heater
  filterPump := other.filterPump <|> state.filterPump
  filterLastStartedAt := other.filterLastStartedAt <|> state.filterLastStartedAt
  bubbles := other.bubbles <|> state.bubbles
  controlPanelLock := other.controlPanelLock <|> state.controlPanelLock
  lockState := other.lockState <|> state.lockState
  volume := other.volume <|> state.volume
  playback := other.playback <|> state.playback
  program := other.program <|> state.program
  programName := other.programName <|> state.programName
  remainingSeconds := other.remainingSeconds <|> state.remainingSeconds

structure DeviceConstraints where
  targetTemperatureMinC : Option PyFloat := none
  targetTemperatureMaxC : Option PyFloat := none
  targetTemperatureStepC : Option PyFloat := none
deriving DecidableEq

structure Device where
  id : Uuid
  displayName : String
  kind : DeviceKind
  roomId : Option Uuid := none
  roomName : Option String := none
  capabilities : List Capability := []
  availability : Availability := .unknown
  state : DeviceState := {}
  constraints : DeviceConstraints := {}
  stateObservedAt : Time
  lastSeenAt : Time
  stateSource : StateSource := .providerSnapshot
deriving DecidableEq

def Device.supports (device : Device) (capability : Capability) : Bool :=
  device.capabilities.contains capability

-- What a device is seen to be.
def Device.view (device : Device) : DeviceState × Availability :=
  (device.state, device.availability)

-- The held state can no longer be presented as current.
def Device.isStale (device : Device) (now : Time) (staleAfterSeconds : Nat) : Bool :=
  device.availability = .offline ∨ staleAfterSeconds * 1000000 < now - device.stateObservedAt

end Homeflow
