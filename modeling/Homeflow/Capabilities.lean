import Mathlib.Data.Rat.Floor
import Mathlib.Tactic.Common

namespace Homeflow

-- HomeFlow identifiers. Only their equality is ever used.
abbrev Uuid := Nat

-- A moment, in microseconds: the resolution of datetime and timedelta.
abbrev Time := Int

inductive DeviceKind where
  | light | mediaPlayer | lock | doorbell | camera | intercom | thermostat | pool
  | washingMachine | dishwasher | voiceAssistant | sensor | switch
deriving DecidableEq, Repr

inductive Capability where
  | power | brightness | color | colorTemperature
  | mediaPlayback | mediaNext | mediaPrevious | volume | grouping
  | lock | unlock | unlatch
  | liveVideo | doorbellEvents | motionEvents
  | currentTemperature | targetTemperature | heating | filter | bubbles | controlPanelLock
  | hvacMode | humidity
  | programStatus | programActions | remainingTime
  | announcement | textCommand
deriving DecidableEq, Repr

end Homeflow
