import Junction.Limit.Rate
import Mathlib.Algebra.Order.Field.Rat
import Mathlib.Tactic.FieldSimp
import Mathlib.Tactic.GCongr
import Mathlib.Tactic.Linarith
import Mathlib.Tactic.Positivity
import Mathlib.Tactic.Ring

/-!
The laws of one bucket. It holds no more than the capacity, and what it holds grows with the time that has passed. A
bucket that a check has left is full from the time it names: under the rate of that check, and under every rate that
has neither a greater capacity nor a longer period.
-/

namespace Junction.Limit

open Config (Rate)

variable {bucket : Bucket} {rate other : Rate} {now time : Rat}

theorem period_pos (rate : Rate) : (0 : Rat) < (period rate : Rat) := by
  have positive : 0 < period rate := by
    unfold period
    omega
  exact_mod_cast positive

theorem refill_nonneg (rate : Rate) : 0 ≤ refill rate := by
  have positive := period_pos rate
  unfold refill
  positivity

namespace Bucket

theorem elapsed_nonneg (bucket : Bucket) (now : Rat) : 0 ≤ bucket.elapsed now := by
  unfold elapsed
  split
  · linarith
  · exact le_refl 0

theorem elapsed_of_le (ordered : bucket.updated ≤ now) : bucket.elapsed now = now - bucket.updated := by
  simp only [elapsed, ordered, if_true]

theorem available_eq_min (bucket : Bucket) (rate : Rate) (now : Rat) :
    bucket.available rate now = min (bucket.tokens + bucket.elapsed now * refill rate) rate.capacity :=
  (min_def _ _).symm

theorem available_le (bucket : Bucket) (rate : Rate) (now : Rat) : bucket.available rate now ≤ rate.capacity := by
  rw [available_eq_min]
  exact min_le_right _ _

theorem available_le_grown (bucket : Bucket) (rate : Rate) (ordered : bucket.updated ≤ now) :
    bucket.available rate now ≤ bucket.tokens + (now - bucket.updated) * refill rate := by
  rw [available_eq_min, elapsed_of_le ordered]
  exact min_le_left _ _

theorem available_nonneg (nonneg : 0 ≤ bucket.tokens) (rate : Rate) (now : Rat) : 0 ≤ bucket.available rate now := by
  have grown : 0 ≤ bucket.elapsed now * refill rate := mul_nonneg (elapsed_nonneg bucket now) (refill_nonneg rate)
  rw [available_eq_min]
  exact le_min (by linarith) (Nat.cast_nonneg _)

@[simp] theorem available_fresh (rate : Rate) (now : Rat) : (fresh rate now).available rate now = rate.capacity := by
  simp [available_eq_min, fresh, elapsed]

/-! ## What a check leaves -/

/-- A bucket as a check under a rate leaves it. -/
structure LeftAt (bucket : Bucket) (rate : Rate) (time : Rat) : Prop where
  nonneg : 0 ≤ bucket.tokens
  bounded : bucket.tokens ≤ rate.capacity
  updated : bucket.updated = time
  fullAt : bucket.fullAt = time + (rate.capacity - bucket.tokens) / refill rate

theorem take_of_enough (enough : 1 ≤ bucket.available rate now) :
    bucket.take rate now = (holding rate now (bucket.available rate now - 1), true) := by
  simp only [take, enough, if_true]

theorem take_of_short (short : ¬ 1 ≤ bucket.available rate now) :
    bucket.take rate now = (holding rate now (bucket.available rate now), false) := by
  simp only [take, short, if_false]

theorem take_congr {bucket' : Bucket} (same : bucket.available rate now = bucket'.available rate now) :
    bucket.take rate now = bucket'.take rate now := by
  simp only [take, same]

theorem allowed_iff : (bucket.take rate now).2 = true ↔ 1 ≤ bucket.available rate now := by
  by_cases enough : 1 ≤ bucket.available rate now
  · simp only [take_of_enough enough, enough]
  · simp [take_of_short enough, enough]

theorem leftAt_holding {tokens : Rat} (nonneg : 0 ≤ tokens) (bounded : tokens ≤ rate.capacity) :
    (holding rate now tokens).LeftAt rate now := by
  refine ⟨nonneg, bounded, rfl, ?_⟩
  simp only [holding, bounded, if_true]

theorem leftAt_take (nonneg : 0 ≤ bucket.tokens) (rate : Rate) (now : Rat) :
    (bucket.take rate now).1.LeftAt rate now := by
  have below := available_le bucket rate now
  by_cases enough : 1 ≤ bucket.available rate now
  · rw [take_of_enough enough]
    exact leftAt_holding (by linarith) (by linarith)
  · rw [take_of_short enough]
    exact leftAt_holding (available_nonneg nonneg rate now) below

@[simp] theorem updated_take (bucket : Bucket) (rate : Rate) (now : Rat) :
    (bucket.take rate now).1.updated = now := by
  by_cases enough : 1 ≤ bucket.available rate now
  · rw [take_of_enough enough]
    rfl
  · rw [take_of_short enough]
    rfl

theorem tokens_take (bucket : Bucket) (rate : Rate) (now : Rat) :
    (bucket.take rate now).1.tokens = bucket.available rate now - if (bucket.take rate now).2 then 1 else 0 := by
  by_cases enough : 1 ≤ bucket.available rate now
  · simp [take_of_enough enough, holding]
  · simp [take_of_short enough, holding]

/-- Right after a check a bucket has what the check has left. -/
theorem available_take (bucket : Bucket) (rate : Rate) (now : Rat) :
    (bucket.take rate now).1.available rate now = (bucket.take rate now).1.tokens := by
  have still : (bucket.take rate now).1.elapsed now = 0 := by
    rw [elapsed_of_le (updated_take ..).le, updated_take, sub_self]
  have bounded : (bucket.take rate now).1.tokens ≤ rate.capacity := by
    have below := available_le bucket rate now
    rw [tokens_take]
    split <;> linarith
  rw [available_eq_min, still, zero_mul, add_zero, min_eq_left bounded]

/-- The share of the capacity that a bucket has not got. -/
def missing (bucket : Bucket) (rate : Rate) : Rat := (rate.capacity - bucket.tokens) / rate.capacity

theorem tokens_eq_of_missing (bucket : Bucket) (limited : rate.capacity ≠ 0) :
    bucket.tokens = (1 - bucket.missing rate) * rate.capacity := by
  have some : (rate.capacity : Rat) ≠ 0 := by exact_mod_cast limited
  unfold missing
  field_simp
  ring

theorem LeftAt.missing_nonneg (left : bucket.LeftAt rate time) : 0 ≤ bucket.missing rate :=
  div_nonneg (sub_nonneg.mpr left.bounded) (Nat.cast_nonneg _)

theorem LeftAt.missing_le_one (left : bucket.LeftAt rate time) (limited : rate.capacity ≠ 0) :
    bucket.missing rate ≤ 1 := by
  have some : (0 : Rat) < rate.capacity := by exact_mod_cast Nat.pos_of_ne_zero limited
  have nonneg := left.nonneg
  unfold missing
  rw [div_le_one some]
  linarith

/-- A bucket is full after the share of the period that it has not got of the capacity. -/
theorem LeftAt.fullAt_eq (left : bucket.LeftAt rate time) (limited : rate.capacity ≠ 0) :
    bucket.fullAt = time + bucket.missing rate * period rate := by
  have some : (rate.capacity : Rat) ≠ 0 := by exact_mod_cast limited
  have positive := period_pos rate
  rw [left.fullAt, missing, refill]
  field_simp

/-- A bucket that is full is as good as a fresh one, under every rate that has neither a greater capacity nor a longer
period than the rate under which it was left. -/
theorem LeftAt.available_of_fullAt (left : bucket.LeftAt rate time) (limited : rate.capacity ≠ 0)
    (capacity : other.capacity ≤ rate.capacity) (shorter : period other ≤ period rate) (full : bucket.fullAt ≤ now) :
    bucket.available other now = other.capacity := by
  have fewer : (other.capacity : Rat) ≤ rate.capacity := by exact_mod_cast capacity
  have sooner : (period other : Rat) ≤ period rate := by exact_mod_cast shorter
  have nonneg := left.missing_nonneg
  have refills := refill_nonneg other
  have passed : bucket.missing rate * period rate ≤ now - bucket.updated := by
    rw [left.fullAt_eq limited] at full
    rw [left.updated]
    linarith
  have ordered : bucket.updated ≤ now := by
    have := mul_nonneg nonneg (period_pos rate).le
    linarith
  -- What is missing comes back in the time that has passed, and what is held is enough for the rest.
  have grown : bucket.missing rate * other.capacity ≤ (now - bucket.updated) * refill other := calc
    bucket.missing rate * other.capacity = bucket.missing rate * period other * refill other := by
      have positive := period_pos other
      rw [refill]
      field_simp
    _ ≤ bucket.missing rate * period rate * refill other := by gcongr
    _ ≤ (now - bucket.updated) * refill other := by gcongr
  have held : (1 - bucket.missing rate) * other.capacity ≤ bucket.tokens := by
    have atMost := left.missing_le_one limited
    rw [tokens_eq_of_missing bucket limited]
    exact mul_le_mul_of_nonneg_left fewer (by linarith)
  have enough : (other.capacity : Rat) ≤ bucket.tokens + (now - bucket.updated) * refill other := by linarith
  rw [available_eq_min, elapsed_of_le ordered, min_eq_right enough]

end Bucket
end Junction.Limit
