import Homeflow.Lib.TokenBucket
import Homeflow.RateLimit
import Mathlib.Data.Finset.Card
import Mathlib.Data.Finset.Dedup

namespace Homeflow.RateLimiter

open TokenBucket

structure Call where
  time : Time
  key : String
deriving DecidableEq

-- The calls of a series with their answers.
def outcomes (limiter : RateLimiter) : List Call → List (Call × Bool)
  | [] => []
  | call :: rest =>
      let (allowed, after) := limiter.allow call.time call.key
      (call, allowed) :: after.outcomes rest

def answersFor (key : String) (series : List (Call × Bool)) : List Bool :=
  (series.filter fun entry => entry.1.key = key).map Prod.snd

-- How many calls for a key are allowed from a moment on and within some seconds of it.
def allowedIn (key : String) (start seconds : ℚ) (series : List (Call × Bool)) : Nat :=
  series.countP fun entry => entry.2 && decide (entry.1.key = key ∧
    start ≤ timestamp entry.1.time ∧ timestamp entry.1.time ≤ start + seconds)

section Isolation

-- What the limiter holds for a key, as the bucket of that key alone.
def level (limiter : RateLimiter) (key : String) : Option (Level ℚ) :=
  (limiter.buckets.get? key).map fun bucket => ⟨bucket.tokens, bucket.updatedAt⟩

-- The keys that are tracked and those still to come leave no need to forget one.
def Fits (limiter : RateLimiter) (calls : List Call) : Prop :=
  (limiter.buckets.keys ++ calls.map Call.key).toFinset.card ≤ limiter.maxKeys

variable {limiter : RateLimiter} {call : Call} {calls : List Call}

theorem mem_keys_iff (key : String) :
    key ∈ limiter.buckets.keys ↔ limiter.level key ≠ none := by
  rw [level, Ne, Option.map_eq_none_iff, OrderedDict.get?_eq_none_iff, not_not]

theorem room_of_fits (hfits : limiter.Fits (call :: calls))
    (hnew : call.key ∉ limiter.buckets.keys) : limiter.buckets.length < limiter.maxKeys := by
  have hsubset : insert call.key limiter.buckets.keys.toFinset ⊆
      (limiter.buckets.keys ++ (call :: calls).map Call.key).toFinset := by
    intro key hkey
    rcases Finset.mem_insert.mp hkey with rfl | htracked
    · simp
    · exact List.mem_toFinset.mpr (List.mem_append_left _ (List.mem_toFinset.mp htracked))
  have htracked : limiter.buckets.keys.toFinset.card = limiter.buckets.length :=
    (List.toFinset_card_of_nodup limiter.buckets.nodup).trans (OrderedDict.length_keys _)
  have hcard := (Finset.card_le_card hsubset).trans hfits
  rwa [Finset.card_insert_of_notMem (by simpa using hnew), htracked] at hcard

-- With room for its key a call refills the bucket of that key and touches no other.
theorem refill_eq (hfits : limiter.Fits (call :: calls)) (now : ℚ) :
    (limiter.refill now call.key).1 =
        ⟨refilled limiter.ratePerSecond limiter.burst (limiter.level call.key) now, now⟩ ∧
      ∀ other, (limiter.refill now call.key).2.get? other = limiter.buckets.get? other := by
  unfold refill
  split
  · next hget =>
    have hnew : call.key ∉ limiter.buckets.keys := (OrderedDict.get?_eq_none_iff _ _).mp hget
    simp [refilled, level, hget, not_le.mpr (room_of_fits hfits hnew)]
  · next bucket hget =>
    simp [refilled, level, hget, OrderedDict.get?_moveToEnd]

theorem level_set {buckets : OrderedDict String Bucket}
    (hothers : ∀ other, buckets.get? other = limiter.buckets.get? other) (key : String)
    (bucket : Bucket) (other : String) :
    level { limiter with buckets := buckets.set key bucket } other =
      if other = key then some ⟨bucket.tokens, bucket.updatedAt⟩ else limiter.level other := by
  rw [level, OrderedDict.get?_set]
  split
  · rfl
  · rw [hothers, level]

theorem allow_eq (hfits : limiter.Fits (call :: calls)) :
    (limiter.allow call.time call.key).1 = (draw limiter.ratePerSecond limiter.burst
        (limiter.level call.key) (timestamp call.time)).1 ∧
      ∀ other, (limiter.allow call.time call.key).2.level other =
        if other = call.key then some (draw limiter.ratePerSecond limiter.burst
          (limiter.level call.key) (timestamp call.time)).2 else limiter.level other := by
  obtain ⟨hbucket, hothers⟩ := refill_eq hfits (timestamp call.time)
  unfold allow draw
  simp only [hbucket]
  split
  · exact ⟨rfl, level_set hothers call.key _⟩
  · exact ⟨rfl, level_set hothers call.key _⟩

theorem fits_allow (hfits : limiter.Fits (call :: calls)) :
    (limiter.allow call.time call.key).2.Fits calls := by
  have hkeys : (limiter.allow call.time call.key).2.maxKeys = limiter.maxKeys := by
    unfold allow
    dsimp only
    split <;> rfl
  rw [Fits, hkeys]
  refine (Finset.card_le_card fun key hkey => ?_).trans hfits
  simp only [List.mem_toFinset, List.mem_append, List.map_cons, List.mem_cons] at hkey ⊢
  rcases hkey with htracked | hlater
  · by_cases hsame : key = call.key
    · exact .inr (.inl hsame)
    · rw [mem_keys_iff, (allow_eq hfits).2, if_neg hsame, ← mem_keys_iff] at htracked
      exact .inl htracked
  · exact .inr (.inr hlater)

theorem allow_rates (limiter : RateLimiter) (moment : Time) (key : String) :
    (limiter.allow moment key).2.ratePerSecond = limiter.ratePerSecond ∧
      (limiter.allow moment key).2.burst = limiter.burst := by
  unfold allow
  dsimp only
  split <;> exact ⟨rfl, rfl⟩

-- The draws from the bucket of one key that a series of calls comes to.
def drawsOf (key : String) (calls : List Call) : List ℚ :=
  (calls.filter fun call => call.key = key).map fun call => timestamp call.time

-- Each key is served as if it had a bucket of its own.
theorem outcomes_eq_draws (hfits : limiter.Fits calls) (key : String) :
    ((limiter.outcomes calls).filter fun entry => entry.1.key = key).map
        (fun entry => (timestamp entry.1.time, entry.2)) =
      draws limiter.ratePerSecond limiter.burst (limiter.level key) (drawsOf key calls) := by
  induction calls generalizing limiter with
  | nil => rfl
  | cons call rest ih =>
      obtain ⟨hanswer, hlevels⟩ := allow_eq hfits
      have hrest := ih (fits_allow hfits)
      rw [(allow_rates _ _ _).1, (allow_rates _ _ _).2, hlevels] at hrest
      rw [outcomes]
      dsimp only
      by_cases hkey : call.key = key
      · subst hkey
        rw [if_pos rfl] at hrest
        simp only [drawsOf, List.filter_cons, decide_true, if_true, List.map_cons, draws, hanswer]
        exact congrArg _ hrest
      · rw [if_neg (Ne.symm hkey)] at hrest
        simp only [drawsOf, List.filter_cons, hkey, decide_false, Bool.false_eq_true, if_false]
        exact hrest

theorem answersFor_eq (hfits : limiter.Fits calls) (key : String) :
    answersFor key (limiter.outcomes calls) =
      (draws limiter.ratePerSecond limiter.burst (limiter.level key) (drawsOf key calls)).map
        Prod.snd := by
  rw [← outcomes_eq_draws hfits, answersFor, List.map_map]
  rfl

theorem allowedIn_eq (hfits : limiter.Fits calls) (key : String) (start seconds : ℚ) :
    allowedIn key start seconds (limiter.outcomes calls) =
      grantedIn start (start + seconds)
        (draws limiter.ratePerSecond limiter.burst (limiter.level key) (drawsOf key calls)) := by
  rw [← outcomes_eq_draws hfits, allowedIn, grantedIn, List.countP_map, List.countP_filter]
  refine List.countP_congr fun entry _ => ?_
  simp only [Bool.decide_and, Bool.and_eq_true, decide_eq_true_eq, Function.comp_apply]
  tauto

theorem drawsOf_filter (key : String) (calls : List Call) :
    drawsOf key (calls.filter fun call => call.key = key) = drawsOf key calls := by
  rw [drawsOf, List.filter_filter, drawsOf]
  simp

theorem drawsOf_ordered {calls : List Call}
    (hordered : calls.Pairwise fun first second => first.time ≤ second.time) (key : String) :
    (drawsOf key calls).Pairwise (· ≤ ·) := by
  refine List.pairwise_map.mpr ((hordered.filter _).imp fun {first second} hle => ?_)
  have hcast : (first.time : ℚ) ≤ second.time := Int.cast_le.mpr hle
  unfold timestamp
  gcongr

end Isolation

-- Where the table has room for every key that calls, each key has its own budget: no window
-- sees more than the burst and what the rate adds in it, and no other key has a part in it.
theorem budget_kept (ratePerMinute : Nat) (burst : Option Nat) (maxKeys : Nat)
    (tracksSome : 0 < maxKeys) (calls : List Call)
    (hordered : calls.Pairwise fun first second => first.time ≤ second.time)
    (hkeys : (calls.map Call.key).toFinset.card ≤ maxKeys) (key : String) :
    let limiter := create ratePerMinute burst maxKeys tracksSome
    (∀ start seconds : ℚ, 0 ≤ seconds → (allowedIn key start seconds (limiter.outcomes calls) : ℚ) ≤
        (burst.getD ratePerMinute : Nat) + seconds * (ratePerMinute / 60)) ∧
      answersFor key (limiter.outcomes calls) =
        answersFor key (limiter.outcomes (calls.filter fun call => call.key = key)) := by
  intro limiter
  have hfits : limiter.Fits calls := hkeys
  have hown : limiter.Fits (calls.filter fun call => call.key = key) := by
    refine (Finset.card_le_card fun other hother => ?_).trans hkeys
    obtain ⟨call, hcall, rfl⟩ := List.mem_map.mp (List.mem_toFinset.mp hother)
    exact List.mem_toFinset.mpr (List.mem_map_of_mem (List.mem_of_mem_filter hcall))
  constructor
  · intro start seconds hseconds
    have hrate : 0 ≤ limiter.ratePerSecond := by
      change (0 : ℚ) ≤ ratePerMinute / 60
      positivity
    have hburst : 0 ≤ limiter.burst := Nat.cast_nonneg _
    have hfull : ∀ held ∈ limiter.level key, 0 ≤ held.tokens := by
      intro held hheld
      cases hheld
    have hwindow : start ≤ start + seconds := le_add_of_nonneg_right hseconds
    have hbound := grantedIn_le hrate hburst hfull hwindow (drawsOf_ordered hordered key)
    rw [allowedIn_eq hfits]
    rwa [add_sub_cancel_left] at hbound
  · rw [answersFor_eq hfits, answersFor_eq hown, drawsOf_filter]

-- Room for two keys, each of which may call once and then once a second.
def tightLimiter : RateLimiter := create 60 (some 1) 2

def hurriedCalls : List Call :=
  [⟨0, "phone"⟩, ⟨100000, "laptop"⟩, ⟨500000, "phone"⟩, ⟨1000000, "phone"⟩]

theorem budget_kept_hurried :
    (allowedIn "phone" 0 1 (tightLimiter.outcomes hurriedCalls) : ℚ) ≤
        (1 : Nat) + 1 * ((60 : Nat) / 60) ∧
      answersFor "phone" (tightLimiter.outcomes hurriedCalls) =
        answersFor "phone" (tightLimiter.outcomes
          (hurriedCalls.filter fun call => call.key = "phone")) := by
  have hordered : hurriedCalls.Pairwise fun first second => first.time ≤ second.time := by decide
  have hkeys : (hurriedCalls.map Call.key).toFinset.card ≤ 2 := by decide
  obtain ⟨hwindow, hown⟩ :=
    budget_kept 60 (some 1) 2 tightLimiter.tracksSome hurriedCalls hordered hkeys "phone"
  exact ⟨hwindow 0 1 (by norm_num), hown⟩

end Homeflow.RateLimiter
