import Homeflow.Demo.Provider
import Homeflow.Lib.Climb

-- The water of the demo pool while its heater is on.
namespace Homeflow.Demo

open PyFloat Climb

-- round(celsius, 2), in hundredths.
def hundredths (celsius : ℚ) : ℤ := roundHalfEven (100 * celsius)

-- How far a tick warms the water.
def gain (simulatedSeconds : ℚ) : ℚ := HEAT_RATE_C_PER_SIM_MINUTE * (simulatedSeconds / 60)

def warmed (target gain current : ℚ) : ℚ :=
  if target ≤ current then current else hundredths (min target (current + gain)) / 100

-- A pool whose heater is on.
structure Heating (target current : ℚ) (state : DeviceState) : Prop where
  heater : state.heater = some true
  target : state.targetTemperatureC = some (.finite target)
  current : state.currentTemperatureC = some (.finite current)

-- The pool after so many ticks of one length.
def heated (state : DeviceState) (simulatedSeconds : ℚ) (ticks : Nat) : DeviceState :=
  (fun state => advancePool state simulatedSeconds)^[ticks] state

section Ticks

variable {target start current : ℚ} {state : DeviceState} {simulatedSeconds : ℚ}

theorem minimum_finite (first second : ℚ) :
    (PyFloat.finite first).minimum (.finite second) = .finite (min first second) := by
  unfold PyFloat.minimum PyFloat.lt PyFloat.le
  rcases lt_or_ge second first with hlt | hge
  · simp [hlt.le, hlt.not_ge]
  · simp [hge]

theorem drift_heating (h : Heating target current state) (minutes : ℚ) :
    drift state (.finite current) minutes = if target ≤ current then none
      else some (.finite (min target (current + HEAT_RATE_C_PER_SIM_MINUTE * minutes))) := by
  simp only [drift, h.heater, h.target, PyFloat.le, PyFloat.add, minimum_finite,
    decide_eq_true_eq]

theorem advancePool_heating (h : Heating target current state) :
    Heating target (warmed target (gain simulatedSeconds) current)
      (advancePool state simulatedSeconds) := by
  have hdrift := drift_heating h (simulatedSeconds / 60)
  unfold advancePool warmed
  rw [h.current]
  by_cases hheld : target ≤ current
  · rw [if_pos hheld] at hdrift ⊢
    simp only [hdrift]
    exact h
  · rw [if_neg hheld] at hdrift ⊢
    simp only [hdrift, roundHundredths, PyFloat.eq, decide_eq_true_eq]
    split
    · next hsame => exact ⟨h.heater, h.target, h.current.trans (congrArg some hsame.symm)⟩
    · exact ⟨h.heater, h.target, rfl⟩

theorem heated_heating (h : Heating target start state) (ticks : Nat) :
    Heating target ((warmed target (gain simulatedSeconds))^[ticks] start)
      (heated state simulatedSeconds ticks) := by
  induction ticks with
  | zero => exact h
  | succ ticks ih =>
      rw [heated, Function.iterate_succ_apply', Function.iterate_succ_apply']
      exact advancePool_heating ih

theorem gain_pos (h : 0 < simulatedSeconds) : 0 < gain simulatedSeconds := by
  unfold gain HEAT_RATE_C_PER_SIM_MINUTE
  positivity

end Ticks

section Climbing

variable {target start current gain : ℚ}

theorem hundredths_min (first second : ℚ) :
    hundredths (min first second) = min (hundredths first) (hundredths second) := by
  refine Monotone.map_min (f := hundredths) fun lower upper h => ?_
  exact roundHalfEven_mono (by linarith)

-- Below the rounded target, warming is a climb in hundredths.
theorem warmed_eq (hgain : 0 < gain) (hrounded : (hundredths target : ℚ) / 100 ≤ target)
    (hcurrent : current ≤ hundredths target / 100) :
    warmed target gain current =
      (step (hundredths target) (100 * gain) (100 * current) : ℚ) / 100 := by
  unfold warmed
  split
  · next hheld =>
    have hsame : 100 * current = hundredths target := by linarith
    rw [step_eq_goal, ← hsame]
    · ring
    · rw [roundsToAtLeast_iff, hsame]
      exact le_roundHalfEven (by linarith)
  · rw [hundredths_min, step, ← mul_add]
    rfl

theorem warmed_succ (hgain : 0 < gain) (hrounded : (hundredths target : ℚ) / 100 ≤ target)
    (hstart : start ≤ hundredths target / 100) (ticks : Nat) :
    (warmed target gain)^[ticks + 1] start =
      (climbed (hundredths target) (100 * gain) (100 * start) ticks : ℚ) / 100 := by
  induction ticks with
  | zero => exact warmed_eq hgain hrounded hstart
  | succ ticks ih =>
      have hgoal : (climbed (hundredths target) (100 * gain) (100 * start) ticks : ℚ) ≤
          hundredths target := by
        exact_mod_cast climbed_le_goal ticks
      rw [Function.iterate_succ_apply', ih, climbed_succ, warmed_eq hgain hrounded (by linarith)]
      congr 4
      ring

-- Rounding takes the target neither up nor below the start, and a tick warms by more than half
-- a hundredth, or the first is enough, or by exactly half and two are enough for an even target.
def Reachable (target start gain : ℚ) : Prop :=
  (hundredths target : ℚ) / 100 ≤ target ∧ start ≤ hundredths target / 100 ∧
    (1 / 200 < gain ∨ RoundsToAtLeast (hundredths target) (100 * (start + gain)) ∨
      gain = 1 / 200 ∧ hundredths target % 2 = 0 ∧ ((hundredths target : ℚ) - 2) / 100 < start)

-- The targets that the pool offers are reached from below in ticks of a usual length.
theorem reachable_of_step (hstep : ∃ steps : ℤ, target = steps * POOL_STEP_C)
    (hbelow : start ≤ target) (hgain : 1 / 200 < gain) : Reachable target start gain := by
  obtain ⟨steps, rfl⟩ := hstep
  have hhundredths : hundredths (steps * POOL_STEP_C) = 50 * steps := by
    rw [hundredths, ← roundHalfEven_intCast (50 * steps)]
    congr 1
    push_cast [POOL_STEP_C]
    ring
  have hrounded : (hundredths (steps * POOL_STEP_C) : ℚ) / 100 = steps * POOL_STEP_C := by
    rw [hhundredths]
    push_cast [POOL_STEP_C]
    ring
  exact ⟨hrounded.le, hbelow.trans hrounded.ge, .inl hgain⟩

-- In hundredths of a degree this is what a climb asks for.
theorem arrives_iff_gain : (∃ ticks, climbed (hundredths target) (100 * gain) (100 * start) ticks =
      hundredths target) ↔
    1 / 200 < gain ∨ RoundsToAtLeast (hundredths target) (100 * (start + gain)) ∨
      gain = 1 / 200 ∧ hundredths target % 2 = 0 ∧ ((hundredths target : ℚ) - 2) / 100 < start := by
  have hhalf : 1 / 2 < 100 * gain ↔ 1 / 200 < gain :=
    ⟨fun h => by linarith, fun h => by linarith⟩
  have htie : 100 * gain = 1 / 2 ↔ gain = 1 / 200 := ⟨fun h => by linarith, fun h => by linarith⟩
  have hnear : (hundredths target : ℚ) - 2 < 100 * start ↔
      ((hundredths target : ℚ) - 2) / 100 < start := by
    rw [div_lt_iff₀ (by norm_num), mul_comm]
  rw [arrives_iff, ← mul_add, hhalf, htie, hnear]

-- What the first tick does not lose, no tick loses.
theorem start_le_warmed (hgain : 0 < gain) (hreachable : Reachable target start gain) :
    start ≤ warmed target gain start := by
  obtain ⟨hrounded, hstart, hticks⟩ := hreachable
  have hgoal : 100 * start ≤ hundredths target := by linarith
  rw [warmed_eq hgain hrounded hstart, le_div_iff₀ (by norm_num), mul_comm]
  rcases hticks with hhalf | hfirst | ⟨htie, -, -⟩
  · exact le_step_of_half (by linarith) hgoal
  · rwa [step_eq_goal (by rwa [← mul_add])]
  · exact le_step_of_half (by linarith) hgoal

theorem ascends_iff (hgain : 0 < gain) (hbelow : start < target) :
    ((∀ ticks, (warmed target gain)^[ticks] start ≤ (warmed target gain)^[ticks + 1] start ∧
        (warmed target gain)^[ticks + 1] start ≤ target) ∧
      ∃ ticks, (warmed target gain)^[ticks] start = hundredths target / 100) ↔
    Reachable target start gain := by
  constructor
  · rintro ⟨hascends, ticks, harrives⟩
    have hmono : Monotone fun ticks => (warmed target gain)^[ticks] start :=
      monotone_nat_of_le_succ fun ticks => (hascends ticks).1
    have hstart : start ≤ hundredths target / 100 := harrives ▸ hmono (Nat.zero_le ticks)
    cases ticks with
    | zero =>
        have hsame : start = hundredths target / 100 := harrives
        refine ⟨hsame ▸ hbelow.le, hstart, .inr (.inl (roundsToAtLeast_iff.mpr ?_))⟩
        refine le_roundHalfEven ?_
        rw [hsame]
        linarith
    | succ ticks =>
        have hrounded := harrives ▸ (hascends ticks).2
        refine ⟨hrounded, hstart, arrives_iff_gain.mp ⟨ticks, ?_⟩⟩
        rw [warmed_succ hgain hrounded hstart, div_left_inj' (by norm_num)] at harrives
        exact_mod_cast harrives
  · intro hreachable
    obtain ⟨hrounded, hstart, hticks⟩ := id hreachable
    refine ⟨fun ticks => ⟨?_, ?_⟩, ?_⟩
    · cases ticks with
      | zero => exact start_le_warmed hgain hreachable
      | succ ticks =>
          rw [warmed_succ hgain hrounded hstart, warmed_succ hgain hrounded hstart]
          have hmono := @climbed_mono (hundredths target) (100 * gain) (100 * start)
            (by linarith) ticks
          exact div_le_div_of_nonneg_right (by exact_mod_cast hmono) (by norm_num)
    · rw [warmed_succ hgain hrounded hstart]
      refine le_trans (div_le_div_of_nonneg_right ?_ (by norm_num)) hrounded
      exact_mod_cast climbed_le_goal ticks
    · obtain ⟨ticks, harrives⟩ := arrives_iff_gain.mpr hticks
      exact ⟨ticks + 1, by rw [warmed_succ hgain hrounded hstart, harrives]⟩

end Climbing

section Household

variable {device : DemoDevice} {id : String} {elapsedSeconds : ℚ} {now : DemoDevice → Time}

theorem get?_tick (provider : DemoProvider) :
    (provider.tick elapsedSeconds now).1.devices.get? id =
      (provider.devices.get? id).map (DemoDevice.ticked (elapsedSeconds * provider.timeScale)) :=
  OrderedDict.get?_mapValues _ _ _

-- In the household the pool sees the length of a tick scaled.
theorem get?_ticks (hkind : device.definition.kind = .pool)
    (honline : device.availability ≠ .offline) (provider : DemoProvider)
    (h : provider.devices.get? id = some device) (ticks : Nat) :
    ((fun provider : DemoProvider => (provider.tick elapsedSeconds now).1)^[ticks]
      provider).devices.get? id = some { device with
        state := heated device.state (elapsedSeconds * provider.timeScale) ticks } := by
  induction ticks generalizing provider device with
  | zero => exact h
  | succ ticks ih =>
      have hticked : device.ticked (elapsedSeconds * provider.timeScale) = { device with
          state := advancePool device.state (elapsedSeconds * provider.timeScale) } := by
        simp only [DemoDevice.ticked, if_neg honline, advance, hkind]
      have hnext : (provider.tick elapsedSeconds now).1.devices.get? id =
          some (device.ticked (elapsedSeconds * provider.timeScale)) := by
        rw [get?_tick, h]
        rfl
      rw [hticked] at hnext
      rw [Function.iterate_succ_apply]
      exact @ih { device with
        state := advancePool device.state (elapsedSeconds * provider.timeScale) }
        hkind honline _ hnext

end Household

section Arrival

variable {target start : ℚ} {state : DeviceState} {simulatedSeconds : ℚ}

-- Each tick leaves the water as warm at least and no warmer than the target, and some tick
-- brings it to the target, rounded.
def Arrives (state : DeviceState) (simulatedSeconds target : ℚ) : Prop :=
  (∀ ticks, ∃ before after,
    (heated state simulatedSeconds ticks).currentTemperatureC = some (.finite before) ∧
    (heated state simulatedSeconds (ticks + 1)).currentTemperatureC = some (.finite after) ∧
    before ≤ after ∧ after ≤ target) ∧
  ∃ ticks, (heated state simulatedSeconds ticks).currentTemperatureC =
    some (PyFloat.finite target).roundHundredths

theorem arrives_iff_reachable (hstate : Heating target start state) (hbelow : start < target)
    (htick : 0 < simulatedSeconds) :
    Arrives state simulatedSeconds target ↔ Reachable target start (gain simulatedSeconds) := by
  rw [← ascends_iff (gain_pos htick) hbelow]
  have htemperature := fun ticks => (@heated_heating _ _ _ simulatedSeconds hstate ticks).current
  unfold Arrives
  simp only [htemperature, roundHundredths, Option.some.injEq, PyFloat.finite.injEq,
    exists_eq_left', exists_and_left, hundredths]

end Arrival

-- The pool of the demo household once its heater is switched on.
def terracePool : DeviceState where
  currentTemperatureC := some (.finite (49 / 2))
  targetTemperatureC := some (.finite 36)
  heater := some true
  filterPump := some true
  bubbles := some false
  controlPanelLock := some false

-- Ticks of two seconds, at sixty times their length.
theorem arrives_iff_reachable_default : Arrives terracePool 120 36 := by
  have hgain : 1 / 200 < gain 120 := by norm_num [gain, HEAT_RATE_C_PER_SIM_MINUTE]
  exact (arrives_iff_reachable ⟨rfl, rfl, rfl⟩ (by norm_num) (by norm_num)).mpr
    (reachable_of_step ⟨72, by norm_num [POOL_STEP_C]⟩ (by norm_num) hgain)

-- Ticks of a tenth of a second: what each adds is rounded away.
theorem short_ticks_stall : ¬Arrives terracePool 6 36 := by
  have hstall : advancePool terracePool 6 = terracePool := by decide +kernel
  rintro ⟨-, ticks, harrives⟩
  rw [heated, Function.iterate_fixed hstall] at harrives
  exact absurd harrives (by decide +kernel)

end Homeflow.Demo
