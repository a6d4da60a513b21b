import Mathlib.Algebra.Order.Field.Basic
import Mathlib.Data.List.Pairwise
import Mathlib.Tactic.Linarith

namespace TokenBucket

-- The tokens a bucket was left with, and when.
structure Level (α : Type*) where
  tokens : α
  time : α

-- The draws that are granted from a moment on and up to another.
def grantedIn {α : Type*} [LinearOrder α] (start finish : α) (series : List (α × Bool)) : Nat :=
  series.countP fun entry => entry.2 && decide (start ≤ entry.1 ∧ entry.1 ≤ finish)

theorem grantedIn_cons {α : Type*} [LinearOrder α] (start finish : α) (entry : α × Bool)
    (series : List (α × Bool)) :
    grantedIn start finish (entry :: series) = grantedIn start finish series +
      if entry.2 && decide (start ≤ entry.1 ∧ entry.1 ≤ finish) then 1 else 0 :=
  List.countP_cons

variable {α : Type*} [Field α] [LinearOrder α] (rate burst : α)

-- The tokens a draw finds. A bucket that was never drawn from is full.
def refilled (level : Option (Level α)) (now : α) : α :=
  match level with
  | none => burst
  | some held => min burst (held.tokens + max 0 (now - held.time) * rate)

-- A draw takes a token, if there is a whole one.
def draw (level : Option (Level α)) (now : α) : Bool × Level α :=
  let tokens := refilled rate burst level now
  if tokens < 1 then (false, ⟨tokens, now⟩) else (true, ⟨tokens - 1, now⟩)

-- Each draw of a series with whether it was granted.
def draws : Option (Level α) → List α → List (α × Bool)
  | _, [] => []
  | level, now :: rest =>
      let (granted, left) := draw rate burst level now
      (now, granted) :: draws (some left) rest

theorem refilled_le (level : Option (Level α)) (now : α) :
    refilled rate burst level now ≤ burst := by
  unfold refilled
  split
  · exact le_rfl
  · exact min_le_left _ _

theorem draw_time (level : Option (Level α)) (now : α) :
    (draw rate burst level now).2.time = now := by
  unfold draw
  dsimp only
  split <;> rfl

-- A draw takes what it grants.
theorem draw_tokens (level : Option (Level α)) (now : α) :
    (draw rate burst level now).2.tokens + (if (draw rate burst level now).1 then 1 else 0) =
      refilled rate burst level now := by
  unfold draw
  dsimp only
  split <;> simp

theorem grantedIn_draws_of_lt {start finish : α} (level : Option (Level α)) {times : List α}
    (hafter : ∀ time ∈ times, finish < time) :
    grantedIn start finish (draws rate burst level times) = 0 := by
  induction times generalizing level with
  | nil => rfl
  | cons now rest ih =>
      obtain ⟨hnow, hrest⟩ := List.forall_mem_cons.mp hafter
      rw [draws, grantedIn_cons, ih _ hrest]
      simp [not_le.mpr hnow]

theorem grantedIn_of_lt {start finish : α} (level : Option (Level α)) {now : α} {times : List α}
    (hordered : (now :: times).Pairwise (· ≤ ·)) (hafter : finish < now) :
    grantedIn start finish (draws rate burst level (now :: times)) = 0 := by
  refine grantedIn_draws_of_lt rate burst level (List.forall_mem_cons.mpr ⟨hafter, ?_⟩)
  intro time htime
  exact hafter.trans_le ((List.pairwise_cons.mp hordered).1 time htime)

section Window

variable [IsStrictOrderedRing α] {rate burst}

theorem grantedIn_cons_le (start finish now : α) (granted : Bool) (series : List (α × Bool)) :
    (grantedIn start finish ((now, granted) :: series) : α) ≤
      grantedIn start finish series + if granted then 1 else 0 := by
  rw [grantedIn_cons, Nat.cast_add]
  gcongr
  split_ifs <;> simp_all

variable (hrate : 0 ≤ rate) (hburst : 0 ≤ burst)
include hrate hburst

theorem draw_nonneg {level : Option (Level α)} (hlevel : ∀ held ∈ level, 0 ≤ held.tokens)
    (now : α) : 0 ≤ (draw rate burst level now).2.tokens := by
  have hrefilled : 0 ≤ refilled rate burst level now := by
    unfold refilled
    split
    · exact hburst
    · next held =>
      have hgained : 0 ≤ max 0 (now - held.time) * rate := mul_nonneg (le_max_left _ _) hrate
      exact le_min hburst (add_nonneg (hlevel held rfl) hgained)
  unfold draw
  dsimp only
  split
  · exact hrefilled
  · next hwhole => exact sub_nonneg.mpr (not_lt.mp hwhole)

-- From a level on no more is granted than it holds and gains.
theorem grantedIn_level_le (start : α) {finish : α} {held : Level α} (hheld : 0 ≤ held.tokens)
    (hfinish : held.time ≤ finish) {times : List α}
    (hordered : (held.time :: times).Pairwise (· ≤ ·)) :
    (grantedIn start finish (draws rate burst (some held) times) : α) ≤
      held.tokens + (finish - held.time) * rate := by
  induction times generalizing held with
  | nil =>
      have hgained : 0 ≤ (finish - held.time) * rate := mul_nonneg (sub_nonneg.mpr hfinish) hrate
      simpa [draws, grantedIn] using add_nonneg hheld hgained
  | cons now rest ih =>
      obtain ⟨hafter, hrest⟩ := List.pairwise_cons.mp hordered
      have hlater : held.time ≤ now := hafter now List.mem_cons_self
      by_cases hin : now ≤ finish
      · have hgained : refilled rate burst (some held) now ≤
            held.tokens + (now - held.time) * rate := by
          rw [refilled, max_eq_right (sub_nonneg.mpr hlater)]
          exact min_le_right _ _
        have htaken := draw_tokens rate burst (some held) now
        have htime := draw_time rate burst (some held) now
        have hleft := @ih (draw rate burst (some held) now).2
          (draw_nonneg hrate hburst (by simpa using hheld) now) (by rwa [htime]) (by rwa [htime])
        rw [htime] at hleft
        have hcounted := grantedIn_cons_le start finish now (draw rate burst (some held) now).1
          (draws rate burst (some (draw rate burst (some held) now).2) rest)
        rw [draws]
        linarith
      · rw [grantedIn_of_lt rate burst _ hrest (not_le.mp hin), Nat.cast_zero]
        exact add_nonneg hheld (mul_nonneg (sub_nonneg.mpr hfinish) hrate)

-- In no window is more granted than the bucket holds when it is full and gains in the window.
theorem grantedIn_le {level : Option (Level α)} (hlevel : ∀ held ∈ level, 0 ≤ held.tokens)
    {start finish : α} (hwindow : start ≤ finish) {times : List α}
    (hordered : times.Pairwise (· ≤ ·)) :
    (grantedIn start finish (draws rate burst level times) : α) ≤
      burst + (finish - start) * rate := by
  have hgained : 0 ≤ (finish - start) * rate := mul_nonneg (sub_nonneg.mpr hwindow) hrate
  induction times generalizing level with
  | nil => simpa [draws, grantedIn] using add_nonneg hburst hgained
  | cons now rest ih =>
      have hrest := (List.pairwise_cons.mp hordered).2
      have hleft := draw_nonneg hrate hburst hlevel now
      have htime := draw_time rate burst level now
      rcases lt_or_ge finish now with hpast | hin
      · rw [grantedIn_of_lt rate burst _ hordered hpast, Nat.cast_zero]
        exact add_nonneg hburst hgained
      rcases lt_or_ge now start with hearly | hstart
      · have huncounted : ¬start ≤ now := not_le.mpr hearly
        rw [draws, grantedIn_cons]
        simpa [huncounted] using ih (by simpa using hleft) hrest
      · have htimely : (draw rate burst level now).2.time ≤ finish := by rwa [htime]
        have hafter := grantedIn_level_le hrate hburst start hleft htimely (by rwa [htime])
        have hcounted := grantedIn_cons_le start finish now (draw rate burst level now).1
          (draws rate burst (some (draw rate burst level now).2) rest)
        have htaken := draw_tokens rate burst level now
        have hfull := refilled_le rate burst level now
        have hshorter : (finish - now) * rate ≤ (finish - start) * rate := by gcongr
        rw [htime] at hafter
        rw [draws]
        linarith

end Window

end TokenBucket
