import Homeflow.Auth.Registry
import Homeflow.RateLimit
import Mathlib.Data.List.DropRight

namespace Homeflow.Api

open Auth

-- What str.strip takes off.
def isSpace (char : Char) : Bool :=
  let code := char.toNat
  (9 ≤ code ∧ code ≤ 13) ∨ (0x1C ≤ code ∧ code ≤ 0x20) ∨ (0x2000 ≤ code ∧ code ≤ 0x200A) ∨
    code ∈ [0x85, 0xA0, 0x1680, 0x2028, 0x2029, 0x202F, 0x205F, 0x3000]

def strip (text : String) : String :=
  String.ofList ((text.toList.dropWhile isSpace).rdropWhile isSpace)

def BEARER_PREFIX : String := "Bearer "

def bearerToken : Option String → Option String
  | none => none
  | some header =>
      if ¬BEARER_PREFIX.toList.isPrefixOf header.toList then none
      else
        let token := strip (String.ofList (header.toList.drop BEARER_PREFIX.length))
        if token = "" then none else some token

-- What is read of a request.
structure Attempt where
  time : Time
  peer : String
  authorization : Option String

inductive AuthError where
  | unauthenticated
  | rateLimited
deriving DecidableEq

def AuthError.status : AuthError → Nat
  | .unauthenticated => 401
  | .rateLimited => 429

def AuthError.detail : AuthError → String
  | .unauthenticated => "A valid registered client credential is required."
  | .rateLimited => "Too many failed authentication attempts."

section Authenticate

variable (sha256Hex : String → String) (registry : ClientRegistry)

-- Only failures are counted.
def authenticate (limiter : RateLimiter) (attempt : Attempt) :
    Except AuthError Principal × RateLimiter :=
  match registry.authenticate sha256Hex (bearerToken attempt.authorization) with
  | some principal => (.ok principal, limiter)
  | none =>
      let (allowed, limiter) := limiter.allow attempt.time attempt.peer
      (.error (if allowed then .unauthenticated else .rateLimited), limiter)

-- The limiter after some attempts.
def limiterAfter (limiter : RateLimiter) (attempts : List Attempt) : RateLimiter :=
  attempts.foldl (fun limiter attempt => (authenticate sha256Hex registry limiter attempt).2)
    limiter

-- What an answer shows of the registry: that the request went through, or the refusal.
def shown (answer : Except AuthError Principal) : Except AuthError Unit := answer.map fun _ => ()

-- The answers that reach one peer.
def heard (peer : String) : RateLimiter → List Attempt → List (Except AuthError Unit)
  | _, [] => []
  | limiter, attempt :: rest =>
      let (answer, limiter) := authenticate sha256Hex registry limiter attempt
      if attempt.peer = peer then shown answer :: heard peer limiter rest
      else heard peer limiter rest

end Authenticate

theorem bearerToken_ne_empty {header : Option String} {token : String}
    (h : bearerToken header = some token) : token ≠ "" := by
  unfold bearerToken at h
  split at h
  · cases h
  · split at h
    · cases h
    · dsimp only at h
      split at h
      · cases h
      · next hempty => exact Option.some.inj h ▸ hempty

theorem strip_of_unspaced {text : String} (h : ∀ char ∈ text.toList, isSpace char = false) :
    strip text = text := by
  have hfront : text.toList.dropWhile isSpace = text.toList := by
    rw [List.dropWhile_eq_self_iff]
    intro hlength
    simp [h _ (List.getElem_mem hlength)]
  have hback : text.toList.rdropWhile isSpace = text.toList := by
    rw [List.rdropWhile_eq_self_iff]
    intro hne
    simp [h _ (List.getLast_mem hne)]
  rw [strip, hfront, hback, String.ofList_toList]

theorem bearerToken_bearer {token : String} (hne : token ≠ "")
    (h : ∀ char ∈ token.toList, isSpace char = false) :
    bearerToken (some (BEARER_PREFIX ++ token)) = some token := by
  have hprefix : BEARER_PREFIX.toList.isPrefixOf (BEARER_PREFIX ++ token).toList = true := by
    rw [List.isPrefixOf_iff_prefix, String.toList_append]
    exact List.prefix_append _ _
  have hrest : (BEARER_PREFIX ++ token).toList.drop BEARER_PREFIX.length = token.toList := by
    rw [String.toList_append, ← String.length_toList, List.drop_left]
  simp only [bearerToken, hprefix, not_true_eq_false, if_false, hrest, String.ofList_toList,
    strip_of_unspaced h, hne]

section Authenticate

variable {sha256Hex : String → String} {registry : ClientRegistry} {limiter : RateLimiter}
  {attempt : Attempt}

-- Whatever is left of the budget, a valid token goes through and nothing else does.
theorem shown_ok_iff : shown (authenticate sha256Hex registry limiter attempt).1 = .ok () ↔
    (registry.authenticate sha256Hex (bearerToken attempt.authorization)).isSome := by
  unfold authenticate
  split
  · next hvalid => simp [hvalid, shown, Except.map]
  · next hvalid => simp [hvalid, shown, Except.map]

theorem authenticate_exhausted
    (hvalid : registry.authenticate sha256Hex (bearerToken attempt.authorization) = none)
    (hexhausted : (limiter.allow attempt.time attempt.peer).1 = false) :
    (authenticate sha256Hex registry limiter attempt).1 = .error .rateLimited := by
  simp [authenticate, hvalid, hexhausted]

end Authenticate

end Homeflow.Api
