import Junction.Proofs.Data.Sorted
import Junction.Proofs.Limit.Bucket
import Junction.Proofs.Text.Joined

/-!
What one check of a limiter does. It may first remove buckets that are full; then it draws on the bucket of its own
client and endpoint, and every other bucket stays as it is.
-/

namespace Junction.Limit

open Config (Rate)

/-- A check of a client at an endpoint, at a time and under the rate that holds then. -/
structure Check where
  time : Rat
  endpoint : String
  client : String
  rate : Rate
deriving DecidableEq

/-- The key of the bucket that a check draws on. -/
def Check.key (check : Check) : String := Limiter.key check.endpoint check.client

namespace Limiter

variable {limiter : Limiter} {check later : Check} {name : String} {now : Rat}

/-- Clients whose names hold no bar have buckets of their own at every endpoint. -/
theorem key_inj {endpoint endpoint' client client' : String} (plain : '|' ∉ client.toList) (plain' : '|' ∉ client'.toList) :
    key endpoint client = key endpoint' client' ↔ endpoint = endpoint' ∧ client = client' := by
  constructor
  · intro same
    have split : endpoint.toList ++ '|' :: client.toList = endpoint'.toList ++ '|' :: client'.toList := by
      simpa [key] using congrArg String.toList same
    have counts : endpoint.toList.count '|' = endpoint'.toList.count '|' := by
      have whole := congrArg (List.count '|') split
      simpa [List.count_eq_zero.mpr plain, List.count_eq_zero.mpr plain'] using whole
    obtain ⟨endpoints, clients⟩ := Text.split_eq_of_count split counts
    exact ⟨String.toList_injective endpoints, String.toList_injective clients⟩
  · rintro ⟨rfl, rfl⟩
    rfl

/-! ## Sweeps -/

/-- What a sweep makes of a bucket by now: it stays, or it is full and goes. -/
def Swept (now : Rat) (before after : Option Bucket) : Prop :=
  after = before ∨ after = none ∧ ∃ bucket, before = some bucket ∧ bucket.fullAt ≤ now

theorem swept_countCheck (limiter : Limiter) (now : Rat) (name : String) :
    Swept now (limiter.buckets.get? name) ((limiter.countCheck now).buckets.get? name) := by
  simp only [countCheck]
  split
  · simp only [prune, Sorted.get?_filter]
    cases found : limiter.buckets.get? name with
    | none => exact .inl rfl
    | some bucket =>
      by_cases kept : now < bucket.fullAt
      · left
        simp [Option.filter, kept]
      · right
        exact ⟨by simp [Option.filter, kept], bucket, rfl, not_lt.mp kept⟩
  · exact .inl rfl

/-! ## Draws -/

/-- The bucket that a check finds; where there is none it is a fresh one. -/
def bucketOf (limiter : Limiter) (check : Check) : Bucket :=
  (limiter.buckets.get? check.key).getD (.fresh check.rate check.time)

/-- The tokens that a check finds. -/
def tokens (limiter : Limiter) (check : Check) : Rat := (limiter.bucketOf check).available check.rate check.time

/-- The limiter after a check has drawn on its bucket, and whether there was a token. -/
def draw (limiter : Limiter) (check : Check) : Limiter × Bool :=
  let (left, allowed) := (limiter.bucketOf check).take check.rate check.time
  ({ limiter with buckets := limiter.buckets.insert check.key left }, allowed)

/-- The limiter after a check, and whether it may go on. -/
def sweeping (limiter : Limiter) (check : Check) : Limiter × Bool :=
  limiter.check check.time check.endpoint check.client check.rate

/-- What a check does if no bucket is ever removed. -/
def keeping (limiter : Limiter) (check : Check) : Limiter × Bool :=
  if check.rate.capacity = 0 then (limiter, true) else limiter.draw check

theorem sweeping_eq (limiter : Limiter) (check : Check) :
    limiter.sweeping check =
      if check.rate.capacity = 0 then (limiter, true) else (limiter.countCheck check.time).draw check := rfl

theorem get?_draw (limiter : Limiter) (check : Check) (name : String) :
    (limiter.draw check).1.buckets.get? name =
      if check.key = name then some ((limiter.bucketOf check).take check.rate check.time).1
      else limiter.buckets.get? name :=
  Sorted.get?_insert ..

theorem allowed_draw : (limiter.draw check).2 = true ↔ 1 ≤ limiter.tokens check := Bucket.allowed_iff

theorem tokens_le (limiter : Limiter) (check : Check) : limiter.tokens check ≤ check.rate.capacity :=
  Bucket.available_le ..

theorem tokens_of_none (absent : limiter.buckets.get? check.key = none) :
    limiter.tokens check = check.rate.capacity := by
  simp [tokens, bucketOf, absent]

/-- What a check takes of its bucket. -/
def taken (limiter : Limiter) (check : Check) : Rat := if (limiter.draw check).2 then 1 else 0

theorem taken_le_one (limiter : Limiter) (check : Check) : limiter.taken check ≤ 1 := by
  unfold taken
  split <;> norm_num

/-- Right after a check there is what it has not taken. -/
theorem tokens_draw (limiter : Limiter) (check : Check) :
    (limiter.draw check).1.tokens check = limiter.tokens check - limiter.taken check := by
  have left := get?_draw limiter check check.key
  rw [if_pos rfl] at left
  simp only [tokens, bucketOf, left, Option.getD_some]
  rw [Bucket.available_take, Bucket.tokens_take]
  rfl

/-- A sweep takes no token from anyone. -/
theorem tokens_le_of_swept {swept : Limiter}
    (sweep : Swept now (limiter.buckets.get? check.key) (swept.buckets.get? check.key)) :
    limiter.tokens check ≤ swept.tokens check := by
  rcases sweep with same | ⟨gone, _⟩
  · simp only [tokens, bucketOf, same, le_refl]
  · rw [tokens_of_none gone]
    exact tokens_le limiter check

/-- No bucket has a negative number of tokens. -/
def Solvent (limiter : Limiter) : Prop :=
  ∀ name bucket, limiter.buckets.get? name = some bucket → 0 ≤ bucket.tokens

theorem Solvent.bucketOf (solvent : limiter.Solvent) (check : Check) : 0 ≤ (limiter.bucketOf check).tokens := by
  unfold Limiter.bucketOf
  cases found : limiter.buckets.get? check.key with
  | none => exact Nat.cast_nonneg _
  | some bucket => exact solvent check.key bucket found

theorem Solvent.draw (solvent : limiter.Solvent) (check : Check) : (limiter.draw check).1.Solvent := by
  intro name bucket found
  rw [get?_draw] at found
  split at found
  · cases found
    exact (Bucket.leftAt_take (solvent.bucketOf check) ..).nonneg
  · exact solvent name bucket found

/-- What a check takes: of its own bucket a token at most, and of no other any. Another bucket may be swept away, but only
when it is full. -/
structure Draws (before : Limiter) (check : Check) (after : Limiter) : Prop where
  own : before.tokens check - 1 ≤ after.tokens check
  others : ∀ other : Check, '|' ∉ other.client.toList →
    other.endpoint ≠ check.endpoint ∨ other.client ≠ check.client →
      Swept check.time (before.buckets.get? other.key) (after.buckets.get? other.key) ∧
        before.tokens other ≤ after.tokens other

theorem draws_sweeping (limiter : Limiter) (limited : check.rate.capacity ≠ 0) (plain : '|' ∉ check.client.toList) :
    limiter.Draws check (limiter.sweeping check).1 := by
  rw [sweeping_eq, if_neg limited]
  constructor
  · have before := tokens_le_of_swept (swept_countCheck limiter check.time check.key)
    have drawn := tokens_draw (limiter.countCheck check.time) check
    have atMost := taken_le_one (limiter.countCheck check.time) check
    linarith
  · intro other plain' apart
    have different : check.key ≠ other.key := by
      intro same
      obtain ⟨endpoints, clients⟩ := (key_inj plain plain').mp same
      rcases apart with endpoint | client
      · exact endpoint endpoints.symm
      · exact client clients.symm
    have swept : Swept check.time (limiter.buckets.get? other.key)
        (((limiter.countCheck check.time).draw check).1.buckets.get? other.key) := by
      rw [get?_draw, if_neg different]
      exact swept_countCheck limiter check.time other.key
    exact ⟨swept, tokens_le_of_swept swept⟩

end Limiter
end Junction.Limit
