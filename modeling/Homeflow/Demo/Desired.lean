import Homeflow.Commands.Policy
import Homeflow.Demo.Provider

-- What is asked of a demo device against what it then reports.
namespace Homeflow.Demo

-- The parameters are of the model that the policy table names for the action.
def Admitted (command : ProviderCommand) : Prop :=
  command.params.model = (ACTION_SPECS command.action).paramsModel

theorem apply_apply (state : DeviceState) (command : ProviderCommand) :
    apply (apply state command) command = apply state command := by
  obtain ⟨action, params⟩ := command
  cases action <;> cases params <;> try rfl
  -- The heater and the pump drive each other only one way each.
  all_goals
    next on => cases on <;> rfl

theorem compare_self {α : Type} [DecidableEq α] (value : α) :
    compare (some value) value = some true := by
  simp [compare]

theorem desiredMatches_setpoint (celsius : Setpoint) (state : DeviceState) :
    desiredMatches .setTargetTemperature (.targetTemperature celsius)
      { state with targetTemperatureC := some (.finite celsius.val) } = some true := by
  refine (desiredMatchesBy_target celsius _ _ rfl).mpr ?_
  rw [isNear, PyFloat.minus_self]
  decide +kernel

theorem desiredMatches_apply {command : ProviderCommand} (state : DeviceState)
    (hadmitted : Admitted command) (hne : command.action ≠ .unlatch) :
    desiredMatches command.action command.params (apply state command) = some true := by
  obtain ⟨action, params⟩ := command
  -- The table leaves one model for each action.
  cases action <;> cases params <;> cases hadmitted
  case setPlayback.playback command => cases command <;> rfl
  case setTargetTemperature.targetTemperature celsius => exact desiredMatches_setpoint celsius state
  case unlatch.noParams => exact absurd rfl hne
  all_goals exact compare_self _

theorem unlatch_undetermined {command : ProviderCommand} (state : DeviceState)
    (h : command.action = .unlatch) :
    desiredMatches command.action command.params (apply state command) = none ∧
      apply state command = state := by
  obtain ⟨action, params⟩ := command
  obtain rfl : action = .unlatch := h
  exact ⟨rfl, rfl⟩

-- Asking again changes nothing, and what was asked is then seen, save for a door that is
-- unlatched for a moment.
theorem asked_is_reported (state : DeviceState) (command : ProviderCommand)
    (hadmitted : Admitted command) :
    apply (apply state command) command = apply state command ∧
      (command.action ≠ .unlatch →
        desiredMatches command.action command.params (apply state command) = some true) ∧
      (command.action = .unlatch →
        desiredMatches command.action command.params (apply state command) = none ∧
          apply state command = state) :=
  ⟨apply_apply state command, desiredMatches_apply state hadmitted, unlatch_undetermined state⟩

def heat : ProviderCommand := ⟨.setHeater, .onOff true⟩

theorem asked_is_reported_heat :
    apply (apply {} heat) heat = apply {} heat ∧
      (heat.action ≠ .unlatch →
        desiredMatches heat.action heat.params (apply {} heat) = some true) ∧
      (heat.action = .unlatch →
        desiredMatches heat.action heat.params (apply {} heat) = none ∧ apply {} heat = {}) :=
  asked_is_reported {} heat rfl

section Execute

variable {provider after : DemoProvider} {ref : ProviderDeviceRef} {command : ProviderCommand}
  {random : ℚ} {now : Time}

-- What execute does, when it does not raise.
theorem execute_applied {result : ProviderCommandResult}
    (h : provider.execute ref command random now = (after, .ok result)) :
    ∃ device, provider.require ref = some device ∧ device.availability ≠ .offline ∧
      after = { provider with
        devices := provider.devices.set ref.providerDeviceId
          { device with state := apply device.state command } } ∧
      result = ⟨.applied, some (snapshot { device with state := apply device.state command } now),
        none⟩ := by
  unfold DemoProvider.execute at h
  split at h
  · cases h
  · next device hdevice =>
    split at h
    · cases h
    · next honline =>
      split at h
      · cases h
      · obtain ⟨rfl, hresult⟩ := Prod.mk.inj h
        obtain rfl := Except.ok.inj hresult
        exact ⟨device, hdevice, honline, rfl, rfl⟩

theorem execute_ok {result : ProviderCommandResult}
    (h : provider.execute ref command random now = (after, .ok result)) :
    ∃ device, provider.require ref = some device ∧
      after.devices.get? ref.providerDeviceId =
        some { device with state := apply device.state command } ∧
      result.outcome = .applied ∧
      result.state = some (snapshot { device with state := apply device.state command } now) := by
  obtain ⟨device, hdevice, -, rfl, rfl⟩ := execute_applied h
  exact ⟨device, hdevice, OrderedDict.get?_set_self _ _ _, rfl, rfl⟩

theorem execute_error {error : ProviderException}
    (h : provider.execute ref command random now = (after, .error error)) :
    after = provider ∧ error = .providerError PROVIDER_UNAVAILABLE := by
  unfold DemoProvider.execute at h
  split at h
  · cases h
    exact ⟨rfl, rfl⟩
  · split at h
    · cases h
      exact ⟨rfl, rfl⟩
    · split at h
      · cases h
        exact ⟨rfl, rfl⟩
      · cases h

-- The state that a command is answered with, and that is held from then on, is the one asked for.
theorem execute_matches {result : ProviderCommandResult} (hadmitted : Admitted command)
    (hne : command.action ≠ .unlatch)
    (h : provider.execute ref command random now = (after, .ok result)) :
    ∃ device reported, after.devices.get? ref.providerDeviceId = some device ∧
      result.state = some reported ∧ reported.state = device.state ∧
      desiredMatches command.action command.params reported.state = some true := by
  obtain ⟨device, -, hheld, -, hreported⟩ := execute_ok h
  exact ⟨_, _, hheld, hreported, rfl, desiredMatches_apply device.state hadmitted hne⟩

end Execute

end Homeflow.Demo
