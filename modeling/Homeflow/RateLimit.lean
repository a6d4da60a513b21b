import Homeflow.Capabilities
import Homeflow.Lib.OrderedDict

namespace Homeflow

-- datetime.timestamp: seconds.
def timestamp (moment : Time) : ℚ := moment / 1000000

structure Bucket where
  tokens : ℚ
  updatedAt : ℚ

-- A token bucket for each key, with a bounded number of tracked keys.
structure RateLimiter where
  ratePerSecond : ℚ
  burst : ℚ
  maxKeys : Nat
  buckets : OrderedDict String Bucket := .empty
  tracksSome : 0 < maxKeys := by decide

namespace RateLimiter

def create (ratePerMinute : Nat) (burst : Option Nat := none) (maxKeys : Nat := 1024)
    (tracksSome : 0 < maxKeys := by decide) : RateLimiter where
  ratePerSecond := ratePerMinute / 60
  burst := burst.getD ratePerMinute
  maxKeys := maxKeys
  tracksSome := tracksSome

theorem tracksSome_default : 0 < 1024 := by decide

-- The bucket of a key as a call at this moment finds it, and the mapping that holds it.
def refill (limiter : RateLimiter) (now : ℚ) (key : String) :
    Bucket × OrderedDict String Bucket :=
  match limiter.buckets.get? key with
  | none =>
      let buckets := if limiter.maxKeys ≤ limiter.buckets.length then limiter.buckets.popFirst
        else limiter.buckets
      (⟨limiter.burst, now⟩, buckets)
  | some bucket =>
      let elapsed := max 0 (now - bucket.updatedAt)
      (⟨min limiter.burst (bucket.tokens + elapsed * limiter.ratePerSecond), now⟩,
        limiter.buckets.moveToEnd key)

def allow (limiter : RateLimiter) (moment : Time) (key : String) : Bool × RateLimiter :=
  let (bucket, buckets) := limiter.refill (timestamp moment) key
  if bucket.tokens < 1 then (false, { limiter with buckets := buckets.set key bucket })
  else
    (true, { limiter with
      buckets := buckets.set key { bucket with tokens := bucket.tokens - 1 } })

end RateLimiter

end Homeflow
