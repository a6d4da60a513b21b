import Homeflow.Lib.PyFloat
import Mathlib.Logic.Function.Iterate

-- A climb in equal steps, each of which ends at a whole number and none beyond a goal.
namespace Climb

open PyFloat

def step (goal : ℤ) (rise height : ℚ) : ℤ := min goal (roundHalfEven (height + rise))

-- Where so many steps more lead after the first.
def climbed (goal : ℤ) (rise start : ℚ) (steps : Nat) : ℤ :=
  (fun height : ℤ => step goal rise height)^[steps] (step goal rise start)

variable {goal : ℤ} {rise start height : ℚ}

theorem step_le_goal : step goal rise height ≤ goal := min_le_left _ _

theorem climbed_succ (steps : Nat) :
    climbed goal rise start (steps + 1) = step goal rise (climbed goal rise start steps) := by
  rw [climbed, Function.iterate_succ_apply']
  rfl

theorem climbed_le_goal (steps : Nat) : climbed goal rise start steps ≤ goal := by
  cases steps with
  | zero => exact step_le_goal
  | succ steps =>
      rw [climbed_succ]
      exact step_le_goal

-- From a whole number it never goes down.
theorem le_step {height : ℤ} (hrise : 0 ≤ rise) (hgoal : height ≤ goal) :
    height ≤ step goal rise height :=
  le_min hgoal (le_roundHalfEven (by linarith))

theorem climbed_mono (hrise : 0 ≤ rise) (steps : Nat) :
    climbed goal rise start steps ≤ climbed goal rise start (steps + 1) := by
  rw [climbed_succ]
  exact le_step hrise (climbed_le_goal steps)

theorem step_eq_goal (h : RoundsToAtLeast goal (height + rise)) : step goal rise height = goal :=
  min_eq_left (roundsToAtLeast_iff.mp h)

-- A step of half a whole number or more does not end below where it began.
theorem le_step_of_half (hrise : 1 / 2 ≤ rise) (hgoal : height ≤ goal) :
    height ≤ step goal rise height := by
  have hnear := (abs_le.mp (roundHalfEven_sub_le (height + rise))).1
  rw [step, Int.cast_min]
  exact le_min hgoal (by linarith)

-- Steps of more than half a whole number each bring the goal nearer.
theorem climbed_of_half (hrise : 1 / 2 < rise) (steps : Nat) :
    min goal (step goal rise start + steps) ≤ climbed goal rise start steps := by
  induction steps with
  | zero => simp [climbed]
  | succ steps ih =>
      have hnext : min goal (climbed goal rise start steps + 1) ≤
          step goal rise (climbed goal rise start steps) := by
        refine min_le_min_left goal (roundsToAtLeast_iff.mp ?_)
        unfold RoundsToAtLeast
        push_cast
        split <;> linarith
      rw [climbed_succ]
      refine le_trans ?_ hnext
      push_cast
      omega

theorem arrives_of_half (hrise : 1 / 2 < rise) : ∃ steps, climbed goal rise start steps = goal := by
  refine ⟨(goal - step goal rise start).toNat, le_antisymm (climbed_le_goal _) ?_⟩
  have hsteps := @climbed_of_half goal rise start hrise (goal - step goal rise start).toNat
  have hgoal := @step_le_goal goal rise start
  omega

-- What a step from a bound does not leave, no number of steps does.
theorem climbed_le {bound : ℤ} (hbound : RoundsToAtMost bound (bound + rise))
    (hstart : RoundsToAtMost bound (start + rise)) (steps : Nat) :
    climbed goal rise start steps ≤ bound := by
  induction steps with
  | zero => exact (min_le_right _ _).trans (roundsToAtMost_iff.mp hstart)
  | succ steps ih =>
      rw [climbed_succ]
      have hcast : (climbed goal rise start steps : ℚ) ≤ bound := by exact_mod_cast ih
      calc step goal rise (climbed goal rise start steps)
          ≤ roundHalfEven (climbed goal rise start steps + rise) := min_le_right _ _
        _ ≤ roundHalfEven (bound + rise) := roundHalfEven_mono (by linarith)
        _ ≤ bound := roundsToAtMost_iff.mp hbound

-- Exactly half a whole number is enough from an odd one, to the even one above it.
theorem arrives_of_tie (hrise : rise = 1 / 2) (heven : goal % 2 = 0)
    (hstart : (goal : ℚ) - 2 < start) : ∃ steps, climbed goal rise start steps = goal := by
  have hfirst : goal - 1 ≤ climbed goal rise start 0 := by
    refine le_min (by omega) (roundsToAtLeast_iff.mp ?_)
    rw [RoundsToAtLeast, if_neg (by omega)]
    push_cast
    linarith
  refine ⟨1, le_antisymm (climbed_le_goal 1) ?_⟩
  rw [climbed_succ]
  refine le_min le_rfl ((le_roundHalfEven_iff heven).mpr ?_)
  have hcast : ((goal - 1 : ℤ) : ℚ) ≤ climbed goal rise start 0 := by exact_mod_cast hfirst
  push_cast at hcast
  linarith

theorem arrives_iff : (∃ steps, climbed goal rise start steps = goal) ↔
    1 / 2 < rise ∨ RoundsToAtLeast goal (start + rise) ∨
      rise = 1 / 2 ∧ goal % 2 = 0 ∧ (goal : ℚ) - 2 < start := by
  constructor
  · rintro ⟨steps, harrives⟩
    by_contra hnone
    simp only [not_or, not_lt, not_and] at hnone
    obtain ⟨hhalf, hfirst, htie⟩ := hnone
    have hbelow : roundHalfEven (start + rise) ≤ goal - 1 := by
      rw [roundsToAtLeast_iff] at hfirst
      omega
    -- The bound is the number below the goal, or the one below that where it is a tie.
    suffices hbound : ∃ bound, bound < goal ∧ RoundsToAtMost bound (bound + rise) ∧
        RoundsToAtMost bound (start + rise) by
      obtain ⟨bound, hlt, hstays, hbegins⟩ := hbound
      have hle := @climbed_le goal rise start bound hstays hbegins steps
      omega
    rcases hhalf.lt_or_eq with hlt | heq
    · refine ⟨goal - 1, by omega, ?_, roundsToAtMost_iff.mpr hbelow⟩
      unfold RoundsToAtMost
      split <;> linarith
    · by_cases heven : goal % 2 = 0
      · have hstart := htie heq heven
        refine ⟨goal - 2, by omega, ?_, ?_⟩
        · rw [RoundsToAtMost, if_pos (by omega)]
          linarith
        · rw [RoundsToAtMost, if_pos (by omega)]
          push_cast
          linarith
      · refine ⟨goal - 1, by omega, ?_, roundsToAtMost_iff.mpr hbelow⟩
        rw [RoundsToAtMost, if_pos (by omega)]
        linarith
  · rintro (hhalf | hfirst | ⟨htie, heven, hstart⟩)
    · exact arrives_of_half hhalf
    · exact ⟨0, step_eq_goal hfirst⟩
    · exact arrives_of_tie htie heven hstart

end Climb
