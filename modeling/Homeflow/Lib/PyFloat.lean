import Mathlib.Data.Int.Log
import Mathlib.Data.Rat.Floor
import Mathlib.Tactic.Common
import Mathlib.Tactic.Linarith
import Mathlib.Tactic.NormNum

-- A float: a finite number, taken as the exact rational it denotes, or one of
-- the three special values. add, sub and scale are exact, minus, times and dividedBy round.
inductive PyFloat where
  | finite (value : ℚ)
  | posInf
  | negInf
  | nan
deriving DecidableEq, Repr

namespace PyFloat

def le : PyFloat → PyFloat → Bool
  | nan, _ => false
  | _, nan => false
  | finite first, finite second => first ≤ second
  | negInf, _ => true
  | _, posInf => true
  | _, _ => false

def lt (first second : PyFloat) : Bool := first.le second && !second.le first

def neg : PyFloat → PyFloat
  | finite value => finite (-value)
  | posInf => negInf
  | negInf => posInf
  | nan => nan

def add : PyFloat → PyFloat → PyFloat
  | nan, _ => nan
  | _, nan => nan
  | posInf, negInf => nan
  | negInf, posInf => nan
  | finite first, finite second => finite (first + second)
  | posInf, _ => posInf
  | _, posInf => posInf
  | negInf, _ => negInf
  | _, negInf => negInf

def sub (first second : PyFloat) : PyFloat := first.add second.neg

def abs : PyFloat → PyFloat
  | finite value => finite |value|
  | negInf => posInf
  | other => other

-- Python's == on floats: not a number differs from everything, itself included.
def eq : PyFloat → PyFloat → Bool
  | nan, _ => false
  | _, nan => false
  | first, second => first = second

-- min and max of two: the first one, unless the second is strictly beyond it.
def minimum (first second : PyFloat) : PyFloat := if second.lt first then second else first

def maximum (first second : PyFloat) : PyFloat := if first.lt second then second else first

-- The product with a finite float.
def scale (factor : ℚ) : PyFloat → PyFloat
  | finite value => finite (factor * value)
  | posInf => if 0 < factor then posInf else if factor < 0 then negInf else nan
  | negInf => if 0 < factor then negInf else if factor < 0 then posInf else nan
  | nan => nan

def IsFinite (value : PyFloat) : Prop := ∃ number, value = finite number

-- Round to the nearest integer, a tie to the even one.
def roundHalfEven (value : ℚ) : ℤ :=
  let below := ⌊value⌋
  let rest := value - below
  if rest < 1 / 2 then below
  else if 1 / 2 < rest then below + 1
  else if below % 2 = 0 then below else below + 1

example : (roundHalfEven (5 / 2), roundHalfEven (7 / 2)) = (2, 4) := by decide +kernel

theorem roundHalfEven_le {value : ℚ} {bound : ℤ} (h : value ≤ bound) :
    roundHalfEven value ≤ bound := by
  have hbelow : ⌊value⌋ ≤ bound := by
    have hle := (Int.floor_le value).trans h
    exact_mod_cast hle
  have hnext : ⌊value⌋ = bound → value - ⌊value⌋ = 0 := fun heq => by
    have hfloor := Int.floor_le value
    rw [heq] at hfloor ⊢
    linarith
  simp only [roundHalfEven]
  by_cases heq : ⌊value⌋ = bound
  · rw [hnext heq, if_pos (by norm_num)]
    exact hbelow
  · split
    · exact hbelow
    · split
      · omega
      · split <;> omega

theorem le_roundHalfEven {value : ℚ} {bound : ℤ} (h : bound ≤ value) :
    bound ≤ roundHalfEven value := by
  have hbelow : bound ≤ ⌊value⌋ := Int.le_floor.mpr h
  simp only [roundHalfEven]
  split
  · exact hbelow
  · split
    · omega
    · split <;> omega

-- A tie goes to the even number, so half a step below an even bound is still within it.
theorem le_roundHalfEven_iff {value : ℚ} {bound : ℤ} (heven : bound % 2 = 0) :
    bound ≤ roundHalfEven value ↔ (bound : ℚ) - 1 / 2 ≤ value := by
  have hfloor := Int.floor_le value
  simp only [roundHalfEven]
  split
  · next hrest =>
    constructor
    · intro h
      have hcast : (bound : ℚ) ≤ ⌊value⌋ := by exact_mod_cast h
      linarith
    · intro h
      have hcast : (bound : ℚ) < (⌊value⌋ + 1 : ℤ) := by push_cast; linarith
      have hlt : bound < ⌊value⌋ + 1 := by exact_mod_cast hcast
      omega
  · next hrest =>
    have hup : bound ≤ ⌊value⌋ + 1 ↔ (bound : ℚ) - 1 / 2 ≤ value := by
      constructor
      · intro h
        have hcast : (bound : ℚ) ≤ (⌊value⌋ + 1 : ℤ) := by exact_mod_cast h
        push_cast at hcast
        linarith
      · intro h
        have hnext := Int.lt_floor_add_one value
        have hcast : (bound : ℚ) < (⌊value⌋ + 2 : ℤ) := by push_cast; linarith
        have hlt : bound < ⌊value⌋ + 2 := by exact_mod_cast hcast
        omega
    split
    · exact hup
    · split
      · rw [← hup]
        omega
      · exact hup

theorem roundHalfEven_le_iff {value : ℚ} {bound : ℤ} (heven : bound % 2 = 0) :
    roundHalfEven value ≤ bound ↔ value ≤ bound + 1 / 2 := by
  have hfloor := Int.floor_le value
  have hdown : ¬ 1 / 2 < value - ⌊value⌋ → (⌊value⌋ ≤ bound ↔ value ≤ bound + 1 / 2) := by
    intro hrest
    constructor
    · intro h
      have hcast : (⌊value⌋ : ℚ) ≤ bound := by exact_mod_cast h
      linarith
    · intro h
      have hcast : (⌊value⌋ : ℚ) < (bound + 1 : ℤ) := by push_cast; linarith
      have hlt : ⌊value⌋ < bound + 1 := by exact_mod_cast hcast
      omega
  simp only [roundHalfEven]
  split
  · next hrest => exact hdown (by linarith)
  · split
    · next hrest =>
      constructor
      · intro h
        have hnext := Int.lt_floor_add_one value
        have hcast : ((⌊value⌋ + 1 : ℤ) : ℚ) ≤ bound := by exact_mod_cast h
        push_cast at hcast
        linarith
      · intro h
        have hcast : (⌊value⌋ : ℚ) < bound := by linarith
        have hlt : ⌊value⌋ < bound := by exact_mod_cast hcast
        omega
    · next hrest =>
      split
      · exact hdown hrest
      · rw [← hdown hrest]
        omega

-- Half a step below an integer rounds up to it where the integer is even, and half a step
-- above it rounds down to it.
def RoundsToAtLeast (bound : ℤ) (value : ℚ) : Prop :=
  if bound % 2 = 0 then (bound : ℚ) - 1 / 2 ≤ value else (bound : ℚ) - 1 / 2 < value

def RoundsToAtMost (bound : ℤ) (value : ℚ) : Prop :=
  if bound % 2 = 0 then value ≤ bound + 1 / 2 else value < bound + 1 / 2

theorem roundsToAtLeast_iff {bound : ℤ} {value : ℚ} :
    RoundsToAtLeast bound value ↔ bound ≤ roundHalfEven value := by
  unfold RoundsToAtLeast
  split
  · next heven => exact (le_roundHalfEven_iff heven).symm
  · next hodd =>
    have hbelow := @roundHalfEven_le_iff value (bound - 1) (by omega)
    push_cast at hbelow
    constructor
    · intro h
      by_contra hlt
      have hle := hbelow.mp (by omega)
      linarith
    · intro h
      by_contra hle
      have hlt := hbelow.mpr (by linarith)
      omega

theorem roundsToAtMost_iff {bound : ℤ} {value : ℚ} :
    RoundsToAtMost bound value ↔ roundHalfEven value ≤ bound := by
  unfold RoundsToAtMost
  split
  · next heven => exact (roundHalfEven_le_iff heven).symm
  · next hodd =>
    have habove := @le_roundHalfEven_iff value (bound + 1) (by omega)
    push_cast at habove
    constructor
    · intro h
      by_contra hlt
      have hle := habove.mp (by omega)
      linarith
    · intro h
      by_contra hle
      have hlt := habove.mpr (by linarith)
      omega

theorem roundHalfEven_mono {first second : ℚ} (h : first ≤ second) :
    roundHalfEven first ≤ roundHalfEven second := by
  have hlow := roundsToAtLeast_iff.mpr (le_refl (roundHalfEven first))
  refine roundsToAtLeast_iff.mp ?_
  unfold RoundsToAtLeast at hlow ⊢
  split_ifs at hlow ⊢ <;> linarith

theorem roundHalfEven_intCast (value : ℤ) : roundHalfEven value = value :=
  le_antisymm (roundHalfEven_le le_rfl) (le_roundHalfEven le_rfl)

-- round(value, 2)
def roundHundredths : PyFloat → PyFloat
  | finite value => finite (roundHalfEven (100 * value) / 100)
  | other => other

-- Away from a tie, the two bounds need no case for it.
theorem le_roundHalfEven_of_ne {bound : ℤ} {value : ℚ} (h : value ≠ bound - 1 / 2) :
    bound ≤ roundHalfEven value ↔ (bound : ℚ) - 1 / 2 ≤ value := by
  rw [← roundsToAtLeast_iff, RoundsToAtLeast]
  split
  · exact Iff.rfl
  · exact ⟨le_of_lt, fun hle => lt_of_le_of_ne hle h.symm⟩

theorem roundHalfEven_le_of_ne {bound : ℤ} {value : ℚ} (h : value ≠ bound + 1 / 2) :
    roundHalfEven value ≤ bound ↔ value ≤ bound + 1 / 2 := by
  rw [← roundsToAtMost_iff, RoundsToAtMost]
  split
  · exact Iff.rfl
  · exact ⟨le_of_lt, fun hle => lt_of_le_of_ne hle h⟩

-- Rounding moves a number by half a step at most.
theorem roundHalfEven_sub_le (value : ℚ) : |(roundHalfEven value : ℚ) - value| ≤ 1 / 2 := by
  have hlow := roundsToAtLeast_iff.mpr (le_refl (roundHalfEven value))
  have hhigh := roundsToAtMost_iff.mpr (le_refl (roundHalfEven value))
  rw [abs_le]
  constructor
  · unfold RoundsToAtMost at hhigh
    split at hhigh <;> linarith
  · unfold RoundsToAtLeast at hlow
    split at hlow <;> linarith

-- There is one integer at less than half a step at most.
theorem roundHalfEven_eq_of_lt {value : ℚ} {nearest : ℤ} (h : |(nearest : ℚ) - value| < 1 / 2) :
    roundHalfEven value = nearest := by
  obtain ⟨hbelow, habove⟩ := abs_lt.mp h
  refine le_antisymm (roundsToAtMost_iff.mp ?_) (roundsToAtLeast_iff.mp ?_)
  · unfold RoundsToAtMost
    split <;> linarith
  · unfold RoundsToAtLeast
    split <;> linarith

section Doubles

-- The exponent of the last binary digit that a double keeps of a number: there are 53 of
-- them, and none below the smallest double.
def lastDigit (value : ℚ) : ℤ := max (Int.log 2 |value| - 52) (-1074)

-- The double next to a number, a tie to the even one, as if there were no largest one.
def toDouble (value : ℚ) : ℚ :=
  roundHalfEven (value / 2 ^ lastDigit value) * 2 ^ lastDigit value

-- What an operation makes of its exact result.
def rounded : PyFloat → PyFloat
  | finite value =>
      if 2 ^ 1024 ≤ toDouble value then posInf
      else if toDouble value ≤ -2 ^ 1024 then negInf
      else finite (toDouble value)
  | other => other

-- The difference, the product and the quotient as they are computed. No divisor is zero.
def minus (first second : PyFloat) : PyFloat := (first.sub second).rounded

def times (value : PyFloat) (factor : ℚ) : PyFloat := (value.scale factor).rounded

def dividedBy (value : PyFloat) (divisor : ℚ) : PyFloat := (value.scale (1 / divisor)).rounded

-- -0.005 * 100
example : (finite (toDouble (-5 / 1000))).times 100 = finite (-1 / 2) := by decide +kernel

theorem toDouble_zero : toDouble 0 = 0 := by
  simp [toDouble, roundHalfEven]

theorem minus_self (value : ℚ) : (finite value).minus (finite value) = finite 0 := by
  have hpos : ¬(2 : ℚ) ^ 1024 ≤ 0 := not_le.mpr (by positivity)
  have hneg : ¬(0 : ℚ) ≤ -2 ^ 1024 := by
    rw [le_neg, neg_zero]
    exact hpos
  simp only [minus, sub, neg, add, add_neg_cancel, rounded, toDouble_zero, if_neg hpos,
    if_neg hneg]

end Doubles

end PyFloat
