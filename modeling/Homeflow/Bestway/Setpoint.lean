import Homeflow.Bestway.Released

namespace Homeflow.Bestway

-- A setpoint in the unit of the controller, before it is rounded to whole degrees.
def inUnit (celsius : ℚ) (fahrenheit : Bool) : ℚ :=
  if fahrenheit then celsius * 9 / 5 + 32 else celsius

-- What a whole degree of the controller is shown as.
def shownCelsius (degrees : ℤ) (fahrenheit : Bool) : ℚ :=
  if fahrenheit then PyFloat.roundHalfEven (((degrees : ℚ) - 32) * 5 / 9 * 10) / 10 else degrees

-- The lowest whole degree that is shown as a temperature or a higher one, and the highest
-- that is shown as a temperature or a lower one.
def lowestDegree (minimum : ℚ) : Bool → ℤ
  | true => ⌈32 + 9 * (2 * ⌈10 * minimum⌉ - 1) / (100 : ℚ)⌉
  | false => ⌈minimum⌉

def highestDegree (maximum : ℚ) : Bool → ℤ
  | true => ⌊32 + 9 * (2 * ⌊10 * maximum⌋ + 1) / (100 : ℚ)⌋
  | false => ⌊maximum⌋

-- The limits of a layout are numbers.
def limitOf : PyFloat → ℚ
  | .finite limit => limit
  | _ => 0

-- What is written for a setpoint, read back in the same unit, lies in the verified range.
def StaysInRange (profile : DatapointProfile) (celsius : ℚ) (fahrenheit : Bool) : Prop :=
  profile.targetTemperatureMinC.le (toCelsius (fromCelsius celsius fahrenheit) fahrenheit) = true ∧
    (toCelsius (fromCelsius celsius fahrenheit) fahrenheit).le profile.targetTemperatureMaxC = true

section Degrees

variable {degrees : ℤ} {fahrenheit : Bool}

theorem fromCelsius_eq (celsius : ℚ) (fahrenheit : Bool) :
    fromCelsius celsius fahrenheit = PyFloat.roundHalfEven (inUnit celsius fahrenheit) := rfl

theorem toCelsius_eq (degrees : ℤ) (fahrenheit : Bool) :
    toCelsius degrees fahrenheit = .finite (shownCelsius degrees fahrenheit) := by
  unfold toCelsius shownCelsius
  split <;> rfl

-- A whole degree Fahrenheit is no tie of tenths of a degree Celsius.
theorem tenths_ne (degrees bound : ℤ) : ((degrees : ℚ) - 32) * 5 / 9 * 10 ≠ bound - 1 / 2 := by
  intro h
  have hwhole : (100 * (degrees - 32) : ℤ) = 9 * (2 * bound - 1) := by
    have hcast : (100 * ((degrees : ℚ) - 32)) = 9 * (2 * bound - 1) := by linarith
    exact_mod_cast hcast
  omega

theorem lowestDegree_le_iff {minimum : ℚ} :
    lowestDegree minimum fahrenheit ≤ degrees ↔ minimum ≤ shownCelsius degrees fahrenheit := by
  cases fahrenheit with
  | false => simp [lowestDegree, shownCelsius, Int.ceil_le]
  | true =>
      have hshown : minimum ≤ shownCelsius degrees true ↔
          ⌈10 * minimum⌉ ≤ PyFloat.roundHalfEven (((degrees : ℚ) - 32) * 5 / 9 * 10) := by
        rw [Int.ceil_le, shownCelsius, if_pos rfl, le_div_iff₀ (by norm_num), mul_comm]
      rw [hshown, PyFloat.le_roundHalfEven_of_ne (tenths_ne degrees _), lowestDegree, Int.ceil_le]
      constructor
      · intro h
        linarith
      · intro h
        linarith

theorem le_highestDegree_iff {maximum : ℚ} :
    degrees ≤ highestDegree maximum fahrenheit ↔ shownCelsius degrees fahrenheit ≤ maximum := by
  cases fahrenheit with
  | false => simp [highestDegree, shownCelsius, Int.le_floor]
  | true =>
      have hshown : shownCelsius degrees true ≤ maximum ↔
          PyFloat.roundHalfEven (((degrees : ℚ) - 32) * 5 / 9 * 10) ≤ ⌊10 * maximum⌋ := by
        rw [Int.le_floor, shownCelsius, if_pos rfl, div_le_iff₀ (by norm_num), mul_comm maximum]
      have htie : ((degrees : ℚ) - 32) * 5 / 9 * 10 ≠ ⌊10 * maximum⌋ + 1 / 2 := by
        intro h
        refine tenths_ne degrees (⌊10 * maximum⌋ + 1) ?_
        push_cast
        linarith
      rw [hshown, PyFloat.roundHalfEven_le_of_ne htie, highestDegree, Int.le_floor]
      constructor
      · intro h
        linarith
      · intro h
        linarith

end Degrees

theorem staysInRange_iff (profile : DatapointProfile) (celsius : ℚ) (fahrenheit : Bool) :
    StaysInRange profile celsius fahrenheit ↔
      limitOf profile.targetTemperatureMinC ≤
        shownCelsius (fromCelsius celsius fahrenheit) fahrenheit ∧
      shownCelsius (fromCelsius celsius fahrenheit) fahrenheit ≤
        limitOf profile.targetTemperatureMaxC := by
  obtain ⟨minimum, maximum, hmin, hmax, -⟩ := limits_finite profile
  simp [StaysInRange, toCelsius_eq, hmin, hmax, PyFloat.le, limitOf]

-- The range is checked before the setpoint is rounded. It is kept when the setpoint does not
-- round past the lowest or the highest whole degree that lies in it.
theorem setpoint_stays_iff (profile : DatapointProfile) (celsius : ℚ) (fahrenheit : Bool) :
    StaysInRange profile celsius fahrenheit ↔
      PyFloat.RoundsToAtLeast (lowestDegree (limitOf profile.targetTemperatureMinC) fahrenheit)
        (inUnit celsius fahrenheit) ∧
      PyFloat.RoundsToAtMost (highestDegree (limitOf profile.targetTemperatureMaxC) fahrenheit)
        (inUnit celsius fahrenheit) := by
  rw [staysInRange_iff, PyFloat.roundsToAtLeast_iff, PyFloat.roundsToAtMost_iff, ← fromCelsius_eq,
    lowestDegree_le_iff, le_highestDegree_iff]

-- A range between two half degrees.
def halfDegrees : DatapointProfile :=
  { AIRJET_19BYTE_PROFILE with
    targetTemperatureMinC := .finite (41 / 2)
    targetTemperatureMaxC := .finite (79 / 2)
    limits_bounded := by decide +kernel
    range_ordered := by decide +kernel }

-- At the lower end, twenty degrees are written.
theorem half_degree_below_range :
    ¬∀ (celsius : ℚ) (fahrenheit : Bool), halfDegrees.targetTemperatureMinC.le (.finite celsius) →
      (PyFloat.finite celsius).le halfDegrees.targetTemperatureMaxC →
      StaysInRange halfDegrees celsius fahrenheit := by
  intro h
  have hstays := h (41 / 2) false (by decide +kernel) (by decide +kernel)
  exact absurd hstays.1 (by decide +kernel)

end Homeflow.Bestway
