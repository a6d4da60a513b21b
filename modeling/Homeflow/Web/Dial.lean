import Homeflow.Lib.PyFloat

-- The circular setpoint control: a ring to drag, arrow keys, and a button on either side.
namespace Homeflow.Web

-- How many degrees of the circle the ring takes up.
def SWEEP : ℚ := 270

def clamp (value min max : ℚ) : ℚ := Min.min max (Max.max min value)

-- Math.round: a tie goes up.
def mathRound (value : ℚ) : ℤ := ⌊value + 1 / 2⌋

structure DialOptions where
  -- The confirmed target.
  value : ℚ
  min : ℚ
  max : ℚ
  step : ℚ
  disabled : Bool

-- Which value a point on the dial means, by its angle from the start of the ring.
def valueAt (options : DialOptions) (relative : ℚ) : ℚ :=
  if SWEEP < relative then
    -- In the gap at the bottom, the end that is nearer.
    if SWEEP + (360 - SWEEP) / 2 < relative then options.min else options.max
  else
    let raw := options.min + relative / SWEEP * (options.max - options.min)
    clamp (mathRound (raw / options.step) * options.step) options.min options.max

structure Dial where
  options : DialOptions
  chosen : ℚ
  dragging : Bool := false

inductive Gesture where
  -- Where the pointer is. None: the dial is not laid out.
  | pointerdown (relative : Option ℚ)
  | pointermove (relative : Option ℚ)
  -- The pointer is lifted, or taken away.
  | release
  -- One step up or down, by a key or by a button.
  | key (up : Bool)
  | nudge (up : Bool)

namespace Dial

def safe (options : DialOptions) : ℚ := clamp options.value options.min options.max

def create (options : DialOptions) : Dial := { options, chosen := safe options }

def pick (dial : Dial) (relative : Option ℚ) : Dial :=
  match relative with
  | some relative => { dial with chosen := valueAt dial.options relative }
  | none => dial

def stepped (dial : Dial) (up : Bool) : ℚ :=
  clamp (dial.chosen + (if up then 1 else -1) * dial.options.step) dial.options.min
    dial.options.max

-- The dial after a gesture, with the value that is committed by it, if one is.
def act (dial : Dial) (gesture : Gesture) : Dial × Option ℚ :=
  if dial.options.disabled then (dial, none)
  else
    match gesture with
    | .pointerdown relative => ({ dial with dragging := true }.pick relative, none)
    | .pointermove relative => if dial.dragging then (dial.pick relative, none) else (dial, none)
    | .release =>
        if dial.dragging then
          ({ dial with dragging := false },
            if dial.chosen ≠ safe dial.options then some dial.chosen else none)
        else (dial, none)
    | .key up => ({ dial with chosen := dial.stepped up }, some (dial.stepped up))
    | .nudge up =>
        if dial.stepped up = dial.chosen then (dial, none)
        else ({ dial with chosen := dial.stepped up }, some (dial.stepped up))

-- All that is committed in the course of some gestures.
def commits (dial : Dial) : List Gesture → List ℚ
  | [] => []
  | gesture :: rest => (dial.act gesture).2.toList ++ (dial.act gesture).1.commits rest

end Dial

section Range

variable {options : DialOptions} {dial : Dial}

theorem clamp_mem {min max : ℚ} (h : min ≤ max) (value : ℚ) :
    min ≤ clamp value min max ∧ clamp value min max ≤ max :=
  ⟨le_min h (le_max_left _ _), min_le_left _ _⟩

theorem valueAt_mem (h : options.min ≤ options.max) (relative : ℚ) :
    options.min ≤ valueAt options relative ∧ valueAt options relative ≤ options.max := by
  unfold valueAt
  split
  · split
    · exact ⟨le_rfl, h⟩
    · exact ⟨h, le_rfl⟩
  · exact clamp_mem h _

namespace Dial

-- The chosen value is within the range.
def Within (dial : Dial) : Prop :=
  dial.options.min ≤ dial.chosen ∧ dial.chosen ≤ dial.options.max

theorem within_create (h : options.min ≤ options.max) : (create options).Within := clamp_mem h _

theorem Within.pick (h : dial.options.min ≤ dial.options.max) (hwithin : dial.Within)
    (relative : Option ℚ) : (dial.pick relative).Within := by
  cases relative with
  | none => exact hwithin
  | some relative => exact valueAt_mem h relative

theorem act_options (gesture : Gesture) : (dial.act gesture).1.options = dial.options := by
  unfold act
  split
  · rfl
  · cases gesture with
    | pointerdown relative => cases relative <;> rfl
    | pointermove relative =>
        dsimp only
        split
        · cases relative <;> rfl
        · rfl
    | release =>
        dsimp only
        split <;> rfl
    | key up => rfl
    | nudge up =>
        dsimp only
        split <;> rfl

theorem Within.act (h : dial.options.min ≤ dial.options.max) (hwithin : dial.Within)
    (gesture : Gesture) : (dial.act gesture).1.Within ∧ ∀ value, (dial.act gesture).2 = some value →
      dial.options.min ≤ value ∧ value ≤ dial.options.max := by
  have hstepped : ∀ up, dial.options.min ≤ dial.stepped up ∧ dial.stepped up ≤ dial.options.max :=
    fun up => clamp_mem h _
  unfold Dial.act
  split
  · exact ⟨hwithin, fun value hvalue => by cases hvalue⟩
  · cases gesture with
    | pointerdown relative =>
        have hdown := @Within.pick { dial with dragging := true } h hwithin relative
        exact ⟨hdown, fun value hvalue => by cases hvalue⟩
    | pointermove relative =>
        dsimp only
        split
        · exact ⟨hwithin.pick h relative, fun value hvalue => by cases hvalue⟩
        · exact ⟨hwithin, fun value hvalue => by cases hvalue⟩
    | release =>
        dsimp only
        split
        · refine ⟨hwithin, fun value hvalue => ?_⟩
          obtain ⟨-, hchosen⟩ := Option.ite_none_right_eq_some.mp hvalue
          exact Option.some.inj hchosen ▸ hwithin
        · exact ⟨hwithin, fun value hvalue => by cases hvalue⟩
    | key up =>
        refine ⟨hstepped up, fun value hvalue => ?_⟩
        obtain rfl := Option.some.inj hvalue
        exact hstepped up
    | nudge up =>
        dsimp only
        split
        · exact ⟨hwithin, fun value hvalue => by cases hvalue⟩
        · refine ⟨hstepped up, fun value hvalue => ?_⟩
          obtain rfl := Option.some.inj hvalue
          exact hstepped up

-- However it is handled, a dial commits nothing outside of its range, and nothing at all
-- while it is disabled.
theorem commits_mem (h : dial.options.min ≤ dial.options.max) (hwithin : dial.Within)
    {gestures : List Gesture} {value : ℚ} (hvalue : value ∈ dial.commits gestures) :
    dial.options.min ≤ value ∧ value ≤ dial.options.max := by
  induction gestures generalizing dial with
  | nil => simp [commits] at hvalue
  | cons gesture rest ih =>
      obtain ⟨hnext, hcommitted⟩ := hwithin.act h gesture
      rcases List.mem_append.mp hvalue with hnow | hlater
      · exact hcommitted value (Option.mem_toList.mp hnow)
      · have hoptions := @act_options dial gesture
        rw [← hoptions]
        exact ih (hoptions ▸ h) hnext hlater

end Dial

end Range

end Homeflow.Web
