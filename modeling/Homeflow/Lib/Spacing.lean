import Mathlib.Algebra.Order.Field.Rat
import Mathlib.Data.List.Basic
import Mathlib.Tactic.Linarith
import Mathlib.Tactic.Positivity

namespace Spacing

-- One moment after the other, with a gap between them.
def Spaced (gap : ℚ) (times : List ℚ) : Prop :=
  times.Pairwise fun first second => first + gap ≤ second

variable {gap : ℚ} {times : List ℚ}

theorem spaced_concat {time : ℚ} :
    Spaced gap (times ++ [time]) ↔ Spaced gap times ∧ ∀ earlier ∈ times, earlier + gap ≤ time := by
  simp [Spaced, List.pairwise_append]

-- The gaps add up.
theorem Spaced.length_le (h : Spaced gap times) {start finish : ℚ}
    (hbounds : ∀ time ∈ times, start ≤ time ∧ time ≤ finish) (hne : times ≠ []) :
    start + gap * (times.length - 1) ≤ finish := by
  induction times generalizing start with
  | nil => exact absurd rfl hne
  | cons first rest ih =>
      obtain ⟨hafter, hrest⟩ := List.pairwise_cons.mp h
      obtain ⟨hfirst, hlast⟩ := hbounds first List.mem_cons_self
      rcases eq_or_ne rest [] with rfl | hmore
      · simpa using hfirst.trans hlast
      · have hlater := ih hrest (fun time htime =>
          ⟨hafter time htime, (hbounds time (List.mem_cons_of_mem _ htime)).2⟩) hmore
        rw [List.length_cons, Nat.cast_succ]
        linarith

-- How many of them lie in a window of time.
def within (start seconds : ℚ) (times : List ℚ) : Nat :=
  times.countP fun time => start ≤ time ∧ time ≤ start + seconds

theorem Spaced.within_le (h : Spaced gap times) (hgap : 0 < gap) (start : ℚ) {seconds : ℚ}
    (hseconds : 0 ≤ seconds) : (within start seconds times : ℚ) ≤ 1 + seconds / gap := by
  let inside := times.filter fun time => start ≤ time ∧ time ≤ start + seconds
  have hcount : within start seconds times = inside.length := List.countP_eq_length_filter
  rw [hcount]
  rcases eq_or_ne inside [] with hnone | hsome
  · rw [hnone, List.length_nil, Nat.cast_zero]
    positivity
  · have hspaced : Spaced gap inside := h.filter _
    have hlength := hspaced.length_le (fun time htime => by
      simpa using (List.mem_filter.mp htime).2) hsome
    have hgaps : (inside.length - 1 : ℚ) ≤ seconds / gap := by
      rw [le_div_iff₀ hgap]
      linarith
    linarith

end Spacing
