import Junction.Config.Limits
import Junction.Data.Sorted
import Junction.Exchange.Failure

/-!
Token buckets: how many requests a client may send to an endpoint. A bucket holds at most as many tokens as
the rate has capacity, a request takes one, and a period brings as many again. Times, in milliseconds, and tokens
are exact fractions.
-/

namespace Junction.Limit

open Config (Rate)

/-- The length of a period; at least a millisecond. -/
def period (rate : Rate) : Nat := max rate.everyMs 1

/-- The tokens that come in one millisecond. -/
def refill (rate : Rate) : Rat := (rate.capacity : Rat) / (period rate : Rat)

/-- The tokens of a client at an endpoint. -/
structure Bucket where
  tokens : Rat
  /-- The time of the last check. -/
  updated : Rat
  /-- The time from which the bucket is full, as a new one is. -/
  fullAt : Rat
deriving DecidableEq, Repr, Inhabited

namespace Bucket

/-- A full bucket. -/
def fresh (rate : Rate) (now : Rat) : Bucket := ⟨rate.capacity, now, now⟩

/-- The time since the last check; none if the clock has gone back. -/
def elapsed (bucket : Bucket) (now : Rat) : Rat := if bucket.updated ≤ now then now - bucket.updated else 0

/-- The tokens of a bucket by now. -/
def available (bucket : Bucket) (rate : Rate) (now : Rat) : Rat :=
  let grown := bucket.tokens + bucket.elapsed now * refill rate
  if grown ≤ rate.capacity then grown else rate.capacity

/-- A bucket with so many tokens by now. -/
def holding (rate : Rate) (now : Rat) (tokens : Rat) : Bucket :=
  ⟨tokens, now, if tokens ≤ rate.capacity then now + (rate.capacity - tokens) / refill rate else now⟩

/-- The bucket after a check, and whether it had a token. -/
def take (bucket : Bucket) (rate : Rate) (now : Rat) : Bucket × Bool :=
  let tokens := bucket.available rate now
  if 1 ≤ tokens then (holding rate now (tokens - 1), true) else (holding rate now tokens, false)

end Bucket

/-- The buckets of all endpoints and clients, and the number of checks. -/
structure Limiter where
  buckets : Sorted Bucket := ∅
  checks : Nat := 0
deriving Inhabited

namespace Limiter

/-- The number of checks from one removal of full buckets to the next. -/
def sweepEvery : Nat := 256

/-- The number of buckets. -/
def size (limiter : Limiter) : Nat := limiter.buckets.size

/-- The limiter without the buckets that are full again. -/
def prune (limiter : Limiter) (now : Rat) : Limiter :=
  { limiter with buckets := limiter.buckets.filter fun _ bucket => now < bucket.fullAt }

/-- The key of the bucket of a client at an endpoint. -/
def key (endpoint client : String) : String := endpoint ++ "|" ++ client

/-- The limiter with one more check counted, which may remove full buckets. -/
def countCheck (limiter : Limiter) (now : Rat) : Limiter :=
  let counted := { limiter with checks := limiter.checks + 1 }
  if counted.checks % sweepEvery = 0 then counted.prune now else counted

/-- The limiter after a check of a client at an endpoint, and whether it may go on. Without a capacity there
is no limit. -/
def check (limiter : Limiter) (now : Rat) (endpoint client : String) (rate : Rate) : Limiter × Bool :=
  if rate.capacity = 0 then (limiter, true)
  else
    let counted := limiter.countCheck now
    let bucket := (counted.buckets.get? (key endpoint client)).getD (.fresh rate now)
    let (left, allowed) := bucket.take rate now
    ({ counted with buckets := counted.buckets.insert (key endpoint client) left }, allowed)

end Limiter
end Junction.Limit
