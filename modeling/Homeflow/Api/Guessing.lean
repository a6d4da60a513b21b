import Homeflow.Api.Deps
import Mathlib.Data.List.Dedup

namespace Homeflow.Api

open Auth

-- The tokens a peer presents from a moment on, within some seconds of it.
def presented (peer : String) (start : Time) (seconds : ℚ) (attempts : List Attempt) :
    List String :=
  attempts.filterMap fun attempt =>
    if attempt.peer = peer ∧ start ≤ attempt.time ∧
        timestamp attempt.time ≤ timestamp start + seconds then
      bearerToken attempt.authorization
    else none

section Guessing

variable (sha256Hex : String → String) (limiter : RateLimiter) (registry : ClientRegistry)
  (peer : String) (attempts : List Attempt)

-- The answers tell whether a token is valid: no registry that answers the same disagrees.
def Revealed (token : String) : Prop :=
  ∀ other : ClientRegistry,
    heard sha256Hex other peer limiter attempts = heard sha256Hex registry peer limiter attempts →
    (other.authenticate sha256Hex (some token)).isSome =
      (registry.authenticate sha256Hex (some token)).isSome

-- In no window does a peer learn of more tokens than its budget has room for.
def Throttled : Prop :=
  ∀ (start : Time) (seconds : ℚ), 0 ≤ seconds → ∀ tokens : List String, tokens.Nodup →
    (∀ token ∈ tokens, token ∈ presented peer start seconds attempts ∧
      Revealed sha256Hex limiter registry peer attempts token) →
    (tokens.length : ℚ) ≤ limiter.burst + seconds * limiter.ratePerSecond

-- The limiter as an attempt finds it.
def Finds (attempt : Attempt) (found : RateLimiter) : Prop :=
  ∃ before after, attempts = before ++ attempt :: after ∧ attempt.peer = peer ∧
    found = limiterAfter sha256Hex registry limiter before

def Exhausted (found : RateLimiter) (attempt : Attempt) : Prop :=
  (found.allow attempt.time attempt.peer).1 = false

-- With an exhausted budget every guess is refused alike, whoever is registered.
def RefusedAlike : Prop :=
  ∀ attempt found, Finds sha256Hex limiter registry peer attempts attempt found →
    Exhausted found attempt → ∀ other : ClientRegistry,
      (authenticate sha256Hex other found attempt).1 = .error .rateLimited

end Guessing

section Revealed

variable {sha256Hex : String → String} {limiter : RateLimiter} {registry other : ClientRegistry}
  {peer : String} {attempts : List Attempt}

-- Each answer shows one validity, whatever the limiters have come to.
theorem validity_of_heard {attempt : Attempt} (hpeer : attempt.peer = peer)
    (hmem : attempt ∈ attempts) {first second : RateLimiter}
    (hheard : heard sha256Hex other peer first attempts =
      heard sha256Hex registry peer second attempts) :
    (other.authenticate sha256Hex (bearerToken attempt.authorization)).isSome =
      (registry.authenticate sha256Hex (bearerToken attempt.authorization)).isSome := by
  induction attempts generalizing first second with
  | nil => cases hmem
  | cons head rest ih =>
      simp only [heard] at hheard
      by_cases hhead : head.peer = peer
      · rw [if_pos hhead, if_pos hhead, List.cons.injEq] at hheard
        obtain ⟨hshown, hrest⟩ := hheard
        rcases List.mem_cons.mp hmem with rfl | htail
        · rw [Bool.eq_iff_iff, ← shown_ok_iff, ← shown_ok_iff, hshown]
        · exact ih htail hrest
      · rw [if_neg hhead, if_neg hhead] at hheard
        rcases List.mem_cons.mp hmem with rfl | htail
        · exact absurd hpeer hhead
        · exact ih htail hheard

theorem revealed_of_presented {start : Time} {seconds : ℚ} {token : String}
    (h : token ∈ presented peer start seconds attempts) :
    Revealed sha256Hex limiter registry peer attempts token := by
  obtain ⟨attempt, hmem, htoken⟩ := List.mem_filterMap.mp h
  intro other hheard
  split at htoken
  · next hwithin =>
    have hvalidity := validity_of_heard hwithin.1 hmem hheard
    rwa [htoken] at hvalidity
  · cases htoken

theorem throttled_iff : Throttled sha256Hex limiter registry peer attempts ↔
    ∀ (start : Time) (seconds : ℚ), 0 ≤ seconds →
      ((presented peer start seconds attempts).dedup.length : ℚ) ≤
        limiter.burst + seconds * limiter.ratePerSecond := by
  constructor
  · intro hthrottled start seconds hseconds
    refine hthrottled start seconds hseconds _ (List.nodup_dedup _) fun token htoken => ?_
    have hpresented := List.mem_dedup.mp htoken
    exact ⟨hpresented, revealed_of_presented hpresented⟩
  · intro hslow start seconds hseconds tokens hnodup htokens
    have hsubset : tokens ⊆ (presented peer start seconds attempts).dedup := fun token htoken =>
      List.mem_dedup.mpr (htokens token htoken).1
    have hlength : tokens.length ≤ (presented peer start seconds attempts).dedup.length :=
      (List.subperm_of_subset hnodup hsubset).length_le
    exact (Nat.cast_le.mpr hlength).trans (hslow start seconds hseconds)

-- A guess after the budget goes through if its client is registered.
theorem refusedAlike_iff : RefusedAlike sha256Hex limiter registry peer attempts ↔
    ∀ attempt found, Finds sha256Hex limiter registry peer attempts attempt found →
      Exhausted found attempt → bearerToken attempt.authorization = none := by
  constructor
  · intro halike attempt found hfinds hexhausted
    cases htoken : bearerToken attempt.authorization with
    | none => rfl
    | some token =>
        let client : RegisteredClient := ⟨0, 0, "", sha256Hex token, false⟩
        have hvalid := ClientRegistry.authenticate_registered sha256Hex client rfl
          (bearerToken_ne_empty htoken) rfl
        have hrefused := halike attempt found hfinds hexhausted ⟨[client]⟩
        rw [authenticate, htoken, hvalid] at hrefused
        cases hrefused
  · intro hquiet attempt found hfinds hexhausted other
    refine authenticate_exhausted ?_ hexhausted
    rw [hquiet attempt found hfinds hexhausted, ClientRegistry.authenticate_none]

end Revealed

-- Guessing is throttled only as far as the guesses come slowly anyway: the limiter turns
-- down no valid token, so the answer to any guess tells whether it is one.
theorem guessing_throttled_iff (sha256Hex : String → String) (limiter : RateLimiter)
    (registry : ClientRegistry) (peer : String) (attempts : List Attempt) :
    Throttled sha256Hex limiter registry peer attempts ∧
        RefusedAlike sha256Hex limiter registry peer attempts ↔
      (∀ (start : Time) (seconds : ℚ), 0 ≤ seconds →
        ((presented peer start seconds attempts).dedup.length : ℚ) ≤
          limiter.burst + seconds * limiter.ratePerSecond) ∧
      ∀ attempt found, Finds sha256Hex limiter registry peer attempts attempt found →
        Exhausted found attempt → bearerToken attempt.authorization = none :=
  and_congr throttled_iff refusedAlike_iff

-- The limiter of the container.
def authRateLimiter : RateLimiter := .create 30 (some 10)

-- Eleven tokens at one moment.
def guesses : List Attempt :=
  ["a", "b", "c", "d", "e", "f", "g", "h", "i", "j", "k"].map fun token =>
    { time := 0, peer := "laptop", authorization := some (BEARER_PREFIX ++ token) }

theorem eleven_guesses_revealed :
    ¬∃ sha256Hex, Throttled sha256Hex authRateLimiter ⟨[]⟩ "laptop" guesses := by
  rintro ⟨sha256Hex, hthrottled⟩
  have hbound := throttled_iff.mp hthrottled 0 0 le_rfl
  have hpresented : presented "laptop" 0 0 guesses =
      ["a", "b", "c", "d", "e", "f", "g", "h", "i", "j", "k"] := by
    rw [presented, guesses, List.filterMap_map]
    refine (List.filterMap_congr (g := some) fun token htoken => ?_).trans List.filterMap_some
    have hplain : token ≠ "" ∧ token.toList.all (fun char => !isSpace char) = true := by
      revert token
      decide
    have hunspaced : ∀ char ∈ token.toList, isSpace char = false := by
      simpa using hplain.2
    simp [timestamp, bearerToken_bearer hplain.1 hunspaced]
  have hlength : ["a", "b", "c", "d", "e", "f", "g", "h", "i", "j", "k"].dedup.length = 11 := by
    decide
  rw [hpresented, hlength] at hbound
  norm_num [authRateLimiter, RateLimiter.create] at hbound

end Homeflow.Api
