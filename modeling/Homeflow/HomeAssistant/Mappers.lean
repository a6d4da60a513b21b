import Homeflow.HomeAssistant.Provider
import Homeflow.Lib.Except

namespace Homeflow.HomeAssistant

namespace HaEntity

variable (entity : HaEntity)

-- An attribute that a float can hold, if it is an integer.
def Fits (key : String) : Prop :=
  ∀ value, Json.member? entity.attributes key = some (.int value) →
    -FLOAT_OVERFLOW < value ∧ value < FLOAT_OVERFLOW

-- The finite number an attribute stands for.
def numeric (key : String) : Option ℚ :=
  match Json.member? entity.attributes key with
  | some (.int value) => some (PyFloat.toDouble value)
  | some (.float (.finite value)) => some value
  | _ => none

-- Nothing about the entity is known right now.
def Unreported : Prop := entity.state = UNAVAILABLE ∨ entity.state = UNKNOWN

-- An attribute whose share of its scale, as it is computed, rounds to a percentage, if it is
-- a number.
def InScale (key : String) (share : ℚ → PyFloat) : Prop :=
  entity.Fits key ∧
    ∀ value, entity.numeric key = some value →
      ∃ number, share value = .finite number ∧ -(1 / 2) ≤ number ∧ number ≤ 201 / 2

-- What a climate entity is asked for, in the order of the questions.
def ClimateFits : Prop :=
  entity.Fits "current_temperature" ∧ entity.Fits "humidity" ∧
    (entity.numeric "humidity" = none → entity.Fits "current_humidity") ∧
    entity.Fits "temperature" ∧
    (entity.numeric "temperature" ≠ none →
      entity.Fits "min_temp" ∧ entity.Fits "max_temp" ∧ entity.Fits "target_temp_step")

variable {entity}

theorem number_of_fits {key : String} (h : entity.Fits key) :
    entity.number key = .ok (entity.numeric key) := by
  simp only [number, numeric]
  rcases hvalue : Json.member? entity.attributes key with _ | value
  · rfl
  · cases value with
    | int value => exact if_pos (h value hvalue)
    | float value => cases value <;> rfl
    | _ => rfl

theorem number_of_not_fits {key : String} (h : ¬ entity.Fits key) :
    entity.number key = .error .overflow := by
  simp only [Fits, not_forall] at h
  obtain ⟨value, hvalue, hlarge⟩ := h
  simp only [number, hvalue, if_neg hlarge]

end HaEntity

-- A half rounds to the even number next to it, so both ends belong to the range.
theorem percent_returns {value : Option ℚ} {share : ℚ → PyFloat} :
    (∃ percentage, percent (value.map share) = .ok percentage) ↔
      ∀ given, value = some given →
        ∃ number, share given = .finite number ∧ -(1 / 2) ≤ number ∧ number ≤ 201 / 2 := by
  cases value with
  | none => simp [percent]
  | some given =>
      simp only [Option.map_some, Option.some.injEq, forall_eq']
      cases share given with
      | finite number =>
          have hlow := @PyFloat.le_roundHalfEven_iff number 0 rfl
          have hhigh := @PyFloat.roundHalfEven_le_iff number 100 rfl
          norm_num at hlow hhigh
          simp only [percent, Percent.validate, PyFloat.finite.injEq, exists_eq_left']
          rw [← hlow, ← hhigh]
          by_cases hrange : 0 ≤ PyFloat.roundHalfEven number ∧ PyFloat.roundHalfEven number ≤ 100
          · simp [hrange]
          · simp [hrange]
      | posInf | negInf | nan => simp [percent]

section Normalise

variable (float : String → Option PyFloat) (entity : HaEntity)

-- The readings a kind takes, each of which has to go well.
def Normalisable (entity : HaEntity) : DeviceKind → Prop
  | .light | .switch => entity.InScale "brightness" brightnessShare
  | .mediaPlayer => entity.InScale "volume_level" volumeShare
  | .thermostat => entity.Fits "current_temperature" ∧ entity.Fits "temperature"
  | _ => True

theorem number_then {key : String} {α : Type} (rest : Option ℚ → Except EntityError α) :
    (∃ value, entity.number key >>= rest = .ok value) ↔
      entity.Fits key ∧ ∃ value, rest (entity.numeric key) = .ok value := by
  by_cases h : entity.Fits key
  · simp [Except.bind_eq_ok, HaEntity.number_of_fits h, h]
  · simp [Except.bind_eq_ok, HaEntity.number_of_not_fits h, h]

theorem percent_then {α : Type} (share : Option PyFloat) (rest : Option Percent → α) :
    (∃ result, (do return rest (← percent share)) = .ok result) ↔
      ∃ percentage, percent share = .ok percentage := by
  simp only [Except.bind_eq_ok, Except.pure_eq_ok]
  constructor
  · rintro ⟨_, percentage, h, -⟩
    exact ⟨percentage, h⟩
  · rintro ⟨percentage, h⟩
    exact ⟨_, percentage, h, rfl⟩

theorem normalise_returns (kind : DeviceKind) :
    (∃ state, normalise float entity kind = .ok state) ↔
      (entity.Unreported ∨ Normalisable entity kind) := by
  by_cases hunreported : entity.Unreported
  · have hstate : entity.state = UNAVAILABLE ∨ entity.state = UNKNOWN := hunreported
    simp [normalise, hstate, hunreported]
  have hstate : ¬ (entity.state = UNAVAILABLE ∨ entity.state = UNKNOWN) := hunreported
  simp only [normalise, if_neg hstate, hunreported, false_or]
  cases kind with
  | light | switch | mediaPlayer =>
      simp only [number_then, percent_then, percent_returns, Normalisable, HaEntity.InScale]
  | thermostat =>
      simp only [number_then, Normalisable]
      simp [pure, Except.pure]
  | _ => simp [Normalisable]

end Normalise

section Describe

variable (entity : HaEntity)

theorem climate_returns :
    (∃ mapping, climate entity = .ok mapping) ↔ entity.ClimateFits := by
  simp only [climate, number_then, HaEntity.ClimateFits]
  refine and_congr_right fun _ => and_congr_right fun _ => ?_
  cases hhumidity : entity.numeric "humidity" <;> cases htarget : entity.numeric "temperature" <;>
    simp only [Option.isSome, Bool.false_eq_true, if_true, if_false, map_eq_pure_bind, bind_assoc,
      pure_bind, number_then, htarget] <;>
    simp [pure, Except.pure]

theorem climate_mapping {mapping : Mapping} (h : climate entity = .ok mapping) :
    mapping.kind = .thermostat ∧
      ∀ capability ∈ mapping.capabilities, capability ∉ mapping.writable →
        capability = .currentTemperature ∨ capability = .humidity := by
  simp only [climate, Except.bind_eq_ok] at h
  obtain ⟨current, -, humidity, -, h⟩ := h
  have hreadable (humid : Bool) : ∀ capability ∈
      (if current.isSome then [Capability.currentTemperature] else []) ++
        (if humid then [Capability.humidity] else []),
      capability = .currentTemperature ∨ capability = .humidity := by
    intro capability hmem
    rcases List.mem_append.mp hmem with hcurrent | hhumidity
    · split at hcurrent
      · exact .inl (List.mem_singleton.mp hcurrent)
      · cases hcurrent
    · split at hhumidity
      · exact .inr (List.mem_singleton.mp hhumidity)
      · cases hhumidity
  split at h <;> simp only [Except.bind_eq_ok, Except.pure_eq_ok, Except.map_eq_ok] at h
  all_goals
    obtain ⟨humid, -, target, -, h⟩ := h
    split at h
    · simp only [Except.bind_eq_ok, Except.pure_eq_ok] at h
      obtain ⟨_, -, _, -, _, -, rfl⟩ := h
      exact ⟨rfl, fun capability hmem hnot =>
        hreadable humid capability ((List.mem_append.mp hmem).resolve_right hnot)⟩
    · cases h
      exact ⟨rfl, fun capability hmem _ => hreadable humid capability hmem⟩

end Describe

end Homeflow.HomeAssistant
