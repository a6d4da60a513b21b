import Homeflow.Commands.Policy
import Homeflow.HomeAssistant.Provider
import Homeflow.Lib.Except

namespace Homeflow.HomeAssistant

section Comparators

@[simp] theorem matchesField_none {α : Type} [DecidableEq α] (seen : Option α) :
    matchesField none seen = true := by
  simp [matchesField]

@[simp] theorem matchesField_some {α : Type} [DecidableEq α] (value : α) (seen : Option α) :
    matchesField (some value) seen = decide (seen = some value) := by
  simp [matchesField, eq_comm]

@[simp] theorem matchesBrightness_none (seen : Option Percent) :
    matchesBrightness none seen = true := rfl

@[simp] theorem matchesFloat_none (seen : Option PyFloat) : matchesFloat none seen = true := rfl

theorem matchesBrightness_some (value : Percent) (seen : Option Percent) :
    matchesBrightness (some value) seen = true ↔
      ∃ percent, seen = some percent ∧ |percent.val - value.val| ≤ 1 := by
  cases seen <;> simp [matchesBrightness]

-- The read-back accepts half a degree and the reconciliation a twentieth.
theorem epsilon_le_tolerance : TEMPERATURE_EPSILON_C ≤ MATCH_TOLERANCE := by decide +kernel

-- What two floats differ by, as it is computed.
theorem minus_abs (target wanted : ℚ) :
    ((PyFloat.finite target).minus (.finite wanted)).abs = .posInf ∨
      ∃ gap, ((PyFloat.finite target).minus (.finite wanted)).abs = .finite gap := by
  simp only [PyFloat.minus, PyFloat.sub, PyFloat.neg, PyFloat.add, PyFloat.rounded]
  split
  · exact .inl rfl
  · split
    · exact .inl rfl
    · exact .inr ⟨_, rfl⟩

theorem compare_eq_some_true {α : Type} [DecidableEq α] (observed : Option α) (expected : α) :
    compare observed expected = some true ↔ observed = some expected := by
  cases observed <;> simp [compare]

end Comparators

section Normalised

variable {float : String → Option PyFloat} {entity : HaEntity} {kind : DeviceKind}
  {state : DeviceState}

-- Only a thermostat reports a setpoint, and a setpoint is a finite number.
theorem normalise_target (h : normalise float entity kind = .ok state) :
    state.targetTemperatureC = none ∨
      ∃ target, state.targetTemperatureC = some (.finite target) := by
  unfold normalise at h
  split at h
  · cases h
    exact .inl rfl
  · cases kind with
    | thermostat =>
        obtain ⟨current, -, hrest⟩ := Except.bind_eq_ok.mp h
        obtain ⟨target, -, hstate⟩ := Except.bind_eq_ok.mp hrest
        obtain rfl := Except.pure_eq_ok.mp hstate
        cases target with
        | none => exact .inl rfl
        | some target => exact .inr ⟨target, rfl⟩
    | light | switch | mediaPlayer =>
        obtain ⟨number, -, hrest⟩ := Except.bind_eq_ok.mp h
        obtain ⟨share, -, hstate⟩ := Except.bind_eq_ok.mp hrest
        obtain rfl := Except.pure_eq_ok.mp hstate
        exact .inl rfl
    | _ =>
        cases h
        exact .inl rfl

end Normalised

section Agreement

-- The readings that the read-back and the reconciliation take for the same answer.
def ReadsAlike : CommandParams → DeviceState → Prop
  | .brightness wanted, state =>
      if wanted.val = 0 then
        -- A light that is off has zero brightness, and the other way round.
        state.power = some false ↔ state.brightness = some wanted
      else
        -- A light that is on has no neighbouring brightness, and one that is not
        -- on has another brightness.
        ∀ seen, state.brightness = some seen →
          if state.power = some true then |seen.val - wanted.val| ≠ 1 else seen ≠ wanted
  -- The read-back asks for nothing, the reconciliation for the playback state.
  | .playback .play, state => state.playback = some .playing
  | .playback .pause, state => state.playback = some .paused
  | .targetTemperature celsius, state =>
      ∀ target gap, state.targetTemperatureC = some target →
        (target.minus (.finite celsius.val)).abs = .finite gap →
          ¬ (TEMPERATURE_EPSILON_C < gap ∧ gap ≤ MATCH_TOLERANCE)
  | _, _ => True

variable {float : String → Option PyFloat} {command : ProviderCommand} {call : Call}
  {entity : HaEntity} {kind : DeviceKind} {state : DeviceState}

theorem entityMatches_eq (expected : DeviceState) (hexpected : expected ≠ {})
    (hstate : normalise float entity kind = .ok state) :
    entityMatches float entity kind expected = .ok (matchesState expected state) := by
  simp [entityMatches, hexpected, hstate, bind, Except.bind, pure, Except.pure]

theorem brightness_judged_alike (wanted : Percent) (hwanted : wanted.val ≠ 0) :
    ((state.power = some true ∧
        ∃ seen, state.brightness = some seen ∧ |seen.val - wanted.val| ≤ 1) ↔
      state.brightness = some wanted) ↔ ReadsAlike (.brightness wanted) state := by
  simp only [ReadsAlike, if_neg hwanted]
  constructor
  · intro hsame seen hseen
    split
    · rename_i hpower
      intro hone
      have heq := hsame.mp ⟨hpower, seen, hseen, hone.le⟩
      rw [hseen, Option.some.injEq] at heq
      simp [heq] at hone
    · rename_i hpower
      rintro rfl
      exact hpower (hsame.mpr hseen).1
  · intro halike
    constructor
    · rintro ⟨hpower, seen, hseen, hnear⟩
      have hne := halike seen hseen
      rw [if_pos hpower] at hne
      have hzero : |seen.val - wanted.val| = 0 := by
        have := abs_nonneg (seen.val - wanted.val)
        omega
      rw [hseen, Subtype.ext (sub_eq_zero.mp (abs_eq_zero.mp hzero))]
    · intro hbrightness
      have hpower := halike wanted hbrightness
      by_cases hon : state.power = some true
      · exact ⟨hon, wanted, hbrightness, by simp⟩
      · rw [if_neg hon] at hpower
        exact absurd rfl hpower

theorem readsAlike_target {celsius : Setpoint} {target : PyFloat}
    (htarget : state.targetTemperatureC = some target) :
    ReadsAlike (.targetTemperature celsius) state ↔
      ∀ gap, (target.minus (.finite celsius.val)).abs = .finite gap →
        ¬ (TEMPERATURE_EPSILON_C < gap ∧ gap ≤ MATCH_TOLERANCE) := by
  constructor
  · intro h gap
    exact h target gap htarget
  · intro h other gap hother
    obtain rfl := Option.some.inj (htarget.symm.trans hother)
    exact h gap

theorem target_judged_alike (celsius : Setpoint) (target : ℚ)
    (htarget : state.targetTemperatureC = some (.finite target)) :
    (matchesFloat (some (.finite celsius.val)) (some (.finite target)) = true ↔
        isNear (.finite target) celsius.val = true) ↔
      ReadsAlike (.targetTemperature celsius) state := by
  rw [readsAlike_target htarget, matchesFloat, isNear]
  rcases minus_abs target celsius.val with hgap | ⟨gap, hgap⟩
  · simp [hgap, PyFloat.lt, PyFloat.le]
  · simp only [hgap, PyFloat.lt, PyFloat.le, PyFloat.finite.injEq, forall_eq', Bool.not_eq_true',
      Bool.and_eq_false_imp, decide_eq_true_eq, Bool.not_eq_false']
    have hwithin : (MATCH_TOLERANCE ≤ gap → gap ≤ MATCH_TOLERANCE) ↔ gap ≤ MATCH_TOLERANCE :=
      ⟨fun h => (le_total gap MATCH_TOLERANCE).elim id h, fun h _ => h⟩
    rw [hwithin]
    constructor
    · rintro hsame ⟨hfar, hnear⟩
      exact absurd (hsame.mp hnear) (not_le.mpr hfar)
    · intro halike
      constructor
      · intro hnear
        by_contra hfar
        exact halike ⟨not_le.mp hfar, hnear⟩
      · intro hclose
        exact hclose.trans epsilon_le_tolerance

theorem judgements_agree_iff (hcall : callFor command = some call)
    (hstate : normalise float entity kind = .ok state) :
    (entityMatches float entity kind call.expected = .ok true ↔
        desiredMatches command.action command.params state = some true) ↔
      ReadsAlike command.params state := by
  obtain ⟨action, params⟩ := command
  cases params with
  | onOff on =>
      cases action <;> simp only [callFor, Option.some.injEq, reduceCtorEq] at hcall
      subst hcall
      rw [entityMatches_eq _ (by simp) hstate]
      simp [matchesState, desiredMatches, desiredMatchesBy, compare_eq_some_true, ReadsAlike]
  | brightness wanted =>
      cases action <;> simp only [callFor, reduceCtorEq] at hcall
      by_cases hwanted : wanted.val = 0
      · rw [if_pos hwanted, Option.some.injEq] at hcall
        subst hcall
        rw [entityMatches_eq _ (by simp) hstate]
        simp [matchesState, desiredMatches, desiredMatchesBy, compare_eq_some_true, ReadsAlike,
          hwanted]
      · rw [if_neg hwanted, Option.some.injEq] at hcall
        subst hcall
        rw [entityMatches_eq _ (by simp) hstate, ← brightness_judged_alike wanted hwanted]
        simp [matchesState, desiredMatches, desiredMatchesBy, compare_eq_some_true,
          matchesBrightness_some]
  | volume volume =>
      cases action <;> simp only [callFor, Option.some.injEq, reduceCtorEq] at hcall
      subst hcall
      rw [entityMatches_eq _ (by simp) hstate]
      simp [matchesState, desiredMatches, desiredMatchesBy, compare_eq_some_true, ReadsAlike]
  | playback playback =>
      cases action <;> simp only [callFor, Option.some.injEq, reduceCtorEq] at hcall
      subst hcall
      cases playback <;>
        simp [entityMatches, desiredMatches, desiredMatchesBy, compare_eq_some_true, ReadsAlike]
  | targetTemperature celsius =>
      cases action <;> simp only [callFor, Option.some.injEq, reduceCtorEq] at hcall
      subst hcall
      rw [entityMatches_eq _ (by simp) hstate]
      rcases normalise_target hstate with hnone | ⟨target, htarget⟩
      · simp [matchesState, matchesFloat, desiredMatches, desiredMatchesBy, ReadsAlike, hnone]
      · rw [desiredMatches, desiredMatchesBy_target celsius state _ htarget,
          ← target_judged_alike celsius target htarget]
        simp [matchesState, htarget]
  | lockState desired =>
      cases action <;> simp [callFor] at hcall
  | noParams =>
      cases action <;> simp [callFor] at hcall

-- An entity of this kind offers the command once its domain is released.
def Offered (command : ProviderCommand) (kind : DeviceKind) : Prop :=
  ∃ entity mapping, describe entity = .ok (some mapping) ∧ mapping.kind = kind ∧
    requiredCapabilityFor command.action command.params ∈ mapping.writable

def dimmedLight : HaEntity where
  entityId := "light.hall"
  state := "off"
  attributes := [("supported_color_modes", .arr [.str "brightness"])]
  entityId_bounds := by decide
  entityId_pattern := by decide
  state_le := by decide

def darken : ProviderCommand := ⟨.setBrightness, .brightness ⟨0, by decide⟩⟩

def darkenCall : Call := { service := "turn_off", expected := { power := some false } }

-- A light that reports its brightness only while it is on.
theorem judgements_agree_iff_off :
    callFor darken = some darkenCall ∧
      normalise (fun _ => none) dimmedLight .light = .ok { power := some false } ∧
      ((entityMatches (fun _ => none) dimmedLight .light darkenCall.expected = .ok true ↔
          desiredMatches darken.action darken.params { power := some false } = some true) ↔
        ReadsAlike darken.params { power := some false }) :=
  ⟨rfl, by decide, judgements_agree_iff rfl (by decide)⟩

-- Turned off as asked: the read-back calls it applied, the reconciliation cannot tell.
theorem darkened_light_judged_twice :
    ¬ ∀ (float : String → Option PyFloat) (command : ProviderCommand) (call : Call)
        (entity : HaEntity) (kind : DeviceKind) (state : DeviceState),
      callFor command = some call → Offered command kind →
      normalise float entity kind = .ok state →
      (entityMatches float entity kind call.expected = .ok true ↔
        desiredMatches command.action command.params state = some true) := by
  intro h
  have hoffered : Offered darken .light :=
    ⟨dimmedLight, light dimmedLight, rfl, rfl, by decide⟩
  have hsame := h (fun _ => none) darken darkenCall dimmedLight .light { power := some false }
    rfl hoffered (by decide)
  exact absurd (hsame.mp (by decide)) (by decide)

end Agreement

end Homeflow.HomeAssistant
