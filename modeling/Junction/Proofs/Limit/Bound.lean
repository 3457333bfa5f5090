import Junction.Proofs.Limit.Sweep

/-!
How many checks of a client are allowed under a rate that stays: in any window of time the capacity and what is refilled
in that time, at most. A check draws on the bucket of its own client and endpoint only, and under one rate nobody notices
the sweeps; so the decisions for one client are those of a run of that client alone.
-/

namespace Junction.Limit

open Config (Rate)

/-- A check is one of a client at an endpoint. -/
def Check.isOf (endpoint client : String) (check : Check) : Bool :=
  check.endpoint == endpoint && check.client == client

theorem Check.isOf_iff_key {endpoint client : String} {check : Check} (plain : '|' ∉ client.toList)
    (plain' : '|' ∉ check.client.toList) :
    check.isOf endpoint client = decide (check.key = Limiter.key endpoint client) := by
  simp only [isOf, key, Limiter.key_inj plain' plain, Bool.decide_and, beq_eq_decide]

namespace Limiter

variable {limiter other : Limiter} {check next : Check} {checks : List Check} {name : String} {rate : Rate}
  {start finish : Rat}

/-! ## Checks of one bucket among others -/

theorem get?_keeping_of_ne (different : check.key ≠ name) :
    (limiter.keeping check).1.buckets.get? name = limiter.buckets.get? name := by
  unfold keeping
  split
  · rfl
  · rw [get?_draw, if_neg different]

theorem keeping_congr (same : limiter.buckets.get? check.key = other.buckets.get? check.key) :
    (limiter.keeping check).2 = (other.keeping check).2 ∧
      (limiter.keeping check).1.buckets.get? check.key = (other.keeping check).1.buckets.get? check.key := by
  have buckets : limiter.bucketOf check = other.bucketOf check := by simp only [bucketOf, same]
  unfold keeping
  split
  · exact ⟨rfl, same⟩
  · rw [get?_draw, get?_draw, if_pos rfl, if_pos rfl, buckets]
    refine ⟨?_, rfl⟩
    show ((limiter.bucketOf check).take check.rate check.time).2 = _
    rw [buckets]
    rfl

/-- What is decided for a bucket does not depend on the checks of other buckets. -/
theorem filter_outcomes_keeping (name : String) (checks : List Check)
    (same : limiter.buckets.get? name = other.buckets.get? name) :
    (outcomes keeping limiter checks).filter (fun outcome => outcome.1.key = name) =
      outcomes keeping other (checks.filter fun check => check.key = name) := by
  induction checks generalizing limiter other with
  | nil => rfl
  | cons check rest ih =>
    by_cases own : check.key = name
    · subst own
      obtain ⟨decided, left⟩ := keeping_congr same
      simp only [outcomes, List.filter_cons, decide_true, if_true, decided, ih left]
    · have left : (limiter.keeping check).1.buckets.get? name = other.buckets.get? name := by
        rw [get?_keeping_of_ne own, same]
      simp only [outcomes, List.filter_cons, own, decide_false, Bool.false_eq_true, if_false, ih left]

theorem mem_of_mem_outcomes {step : Limiter → Check → Limiter × Bool} {outcome : Check × Bool}
    (member : outcome ∈ outcomes step limiter checks) : outcome.1 ∈ checks := by
  induction checks generalizing limiter with
  | nil => cases member
  | cons check rest ih =>
    rcases List.mem_cons.mp member with rfl | later
    · exact List.mem_cons_self
    · exact List.mem_cons_of_mem _ (ih later)

/-! ## What may be allowed in a window -/

/-- A check is allowed in a window of time. -/
def within (start finish : Rat) (outcome : Check × Bool) : Bool :=
  outcome.2 && (decide (start ≤ outcome.1.time) && decide (outcome.1.time ≤ finish))

/-- The number of checks of a client at an endpoint that are allowed in a window of time. -/
def granted (endpoint client : String) (start length : Rat) (outcomes : List (Check × Bool)) : Nat :=
  outcomes.countP fun outcome => within start (start + length) outcome && outcome.1.isOf endpoint client

/-- By the next check of its bucket there is what a check has left, and at most the refill of the time between. -/
theorem tokens_draw_next (limiter : Limiter) (own : next.key = check.key) (fixed : next.rate = check.rate)
    (ordered : check.time ≤ next.time) :
    (limiter.draw check).1.tokens next ≤
      limiter.tokens check - limiter.taken check + (next.time - check.time) * refill check.rate := by
  have found : (limiter.draw check).1.bucketOf next =
      ((limiter.bucketOf check).take check.rate check.time).1 := by
    simp only [bucketOf, get?_draw, own, if_true, Option.getD_some]
  have grown := Bucket.available_le_grown ((limiter.bucketOf check).take check.rate check.time).1 next.rate
    ((Bucket.updated_take ..).trans_le ordered)
  rw [Bucket.tokens_take, Bucket.updated_take, fixed] at grown
  simp only [tokens, found, fixed]
  exact grown

theorem countP_within_of_late (limiter : Limiter) (start : Rat) (timely : Timely (check :: checks))
    (late : finish < check.time) :
    (outcomes keeping limiter (check :: checks)).countP (within start finish) = 0 := by
  obtain ⟨after, _⟩ := List.pairwise_cons.mp timely
  rw [List.countP_eq_zero]
  intro outcome member
  have later : finish < outcome.1.time := by
    rcases List.mem_cons.mp (mem_of_mem_outcomes member) with same | further
    · rw [same]
      exact late
    · exact late.trans_le (after _ further)
  simp [within, not_le.mpr later]

theorem taken_le_tokens (solvent : limiter.Solvent) (check : Check) : limiter.taken check ≤ limiter.tokens check := by
  have left := Bucket.available_nonneg ((solvent.draw check).bucketOf check) check.rate check.time
  have drawn := tokens_draw limiter check
  unfold tokens at drawn ⊢
  linarith

theorem countP_within_cons_le (limiter : Limiter) (checks : List Check) (start finish : Rat)
    (limited : check.rate.capacity ≠ 0) :
    ((outcomes keeping limiter (check :: checks)).countP (within start finish) : Rat) ≤
      (outcomes keeping (limiter.draw check).1 checks).countP (within start finish) + limiter.taken check := by
  simp only [outcomes, keeping, limited, if_false, List.countP_cons, Nat.cast_add, taken]
  gcongr
  by_cases allowed : (limiter.draw check).2 = true
  · rw [if_pos allowed]
    split <;> norm_num
  · simp [within, allowed]

/-- From a check on, no more is allowed until the end of a window than the tokens that the check finds and what is
refilled until then. -/
theorem countP_within_le (start : Rat) (limited : check.rate.capacity ≠ 0) (solvent : limiter.Solvent)
    (own : ∀ later ∈ checks, later.key = check.key ∧ later.rate = check.rate) (timely : Timely (check :: checks))
    (inside : check.time ≤ finish) :
    ((outcomes keeping limiter (check :: checks)).countP (within start finish) : Rat) ≤
      limiter.tokens check + (finish - check.time) * refill check.rate := by
  induction checks generalizing limiter check with
  | nil =>
    have first := countP_within_cons_le limiter [] start finish limited
    have left := taken_le_tokens solvent check
    have refilled := mul_nonneg (sub_nonneg.mpr inside) (refill_nonneg check.rate)
    simp only [outcomes, List.countP_nil, Nat.cast_zero, zero_add] at first ⊢
    linarith
  | cons next rest ih =>
    have first := countP_within_cons_le limiter (next :: rest) start finish limited
    obtain ⟨after, later⟩ := List.pairwise_cons.mp timely
    obtain ⟨sameKey, sameRate⟩ := own next List.mem_cons_self
    by_cases late : finish < next.time
    · have none := countP_within_of_late (limiter.draw check).1 start later late
      have left := taken_le_tokens solvent check
      have refilled := mul_nonneg (sub_nonneg.mpr inside) (refill_nonneg check.rate)
      rw [none, Nat.cast_zero] at first
      linarith
    · have others : ∀ later ∈ rest, later.key = next.key ∧ later.rate = next.rate := by
        intro later member
        obtain ⟨key, rate⟩ := own later (List.mem_cons_of_mem _ member)
        exact ⟨key.trans sameKey.symm, rate.trans sameRate.symm⟩
      have tail := ih (sameRate ▸ limited) (solvent.draw check) others later (not_lt.mp late)
      have found := tokens_draw_next limiter sameKey sameRate (after next List.mem_cons_self)
      rw [sameRate] at tail
      have time : (finish - check.time) * refill check.rate =
          (next.time - check.time) * refill check.rate + (finish - next.time) * refill check.rate := by ring
      linarith

/-- In any window no more is allowed than the capacity and what is refilled in its length. -/
theorem countP_window_le (start : Rat) {length : Rat} (limited : rate.capacity ≠ 0) (nonneg : 0 ≤ length)
    (solvent : limiter.Solvent) (own : ∀ check ∈ checks, check.key = name ∧ check.rate = rate) (timely : Timely checks) :
    ((outcomes keeping limiter checks).countP (within start (start + length)) : Rat) ≤
      rate.capacity + length * refill rate := by
  have refilled := mul_nonneg nonneg (refill_nonneg rate)
  have some : (0 : Rat) ≤ rate.capacity := Nat.cast_nonneg _
  induction checks generalizing limiter with
  | nil =>
    simp only [outcomes, List.countP_nil, Nat.cast_zero]
    linarith
  | cons check rest ih =>
    obtain ⟨after, later⟩ := List.pairwise_cons.mp timely
    obtain ⟨rfl, rfl⟩ := own check List.mem_cons_self
    by_cases before : check.time < start
    · -- A check before the window does not count.
      have tail := ih (solvent.draw check) (fun next member => own next (List.mem_cons_of_mem _ member)) later
      simp only [outcomes, keeping, limited, if_false, List.countP_cons, within, not_le.mpr before, decide_false,
        Bool.false_and, Bool.and_false, Bool.false_eq_true, add_zero]
      exact tail
    · by_cases late : start + length < check.time
      · have none := countP_within_of_late limiter start timely late
        rw [none, Nat.cast_zero]
        linarith
      · have others : ∀ next ∈ rest, next.key = check.key ∧ next.rate = check.rate :=
          fun next member => own next (List.mem_cons_of_mem _ member)
        have inside := countP_within_le start limited solvent others timely (not_lt.mp late)
        have found := tokens_le limiter check
        have time : (start + length - check.time) * refill check.rate ≤ length * refill check.rate :=
          mul_le_mul_of_nonneg_right (by linarith) (refill_nonneg check.rate)
        linarith

/-! ## Runs under one rate -/

theorem run_of_fixed (timely : Timely checks) (fixed : ∀ check ∈ checks, check.rate = rate) :
    outcomes sweeping {} checks = outcomes keeping {} checks ∧
      ∃ now, Alike now (through sweeping {} checks) (through keeping {} checks) := by
  have unraised : Unraised checks := by
    apply List.pairwise_of_forall_mem_list
    intro earlier member later member' _
    rw [fixed earlier member, fixed later member']
    exact ⟨le_rfl, le_rfl⟩
  obtain ⟨now, past⟩ := exists_past checks
  obtain ⟨decided, alike⟩ := alike_of_unraised timely unraised past
  exact ⟨decided, now, alike⟩

theorem filter_isOf {endpoint client : String} (plain : '|' ∉ client.toList)
    (clients : ∀ check ∈ checks, '|' ∉ check.client.toList) :
    checks.filter (·.isOf endpoint client) = checks.filter fun check => check.key = key endpoint client :=
  List.filter_congr fun check member => Check.isOf_iff_key plain (clients check member)

/-- The decisions for one client at one endpoint are those of a run of that client alone. -/
theorem filter_outcomes_isOf {endpoint client : String} (plain : '|' ∉ client.toList)
    (clients : ∀ check ∈ checks, '|' ∉ check.client.toList) :
    (outcomes keeping {} checks).filter (·.1.isOf endpoint client) =
      outcomes keeping {} (checks.filter (·.isOf endpoint client)) := by
  rw [filter_isOf plain clients, ← filter_outcomes_keeping (key endpoint client) checks rfl]
  apply List.filter_congr
  intro outcome member
  exact Check.isOf_iff_key plain (clients _ (mem_of_mem_outcomes member))

/-- Under one rate a client gets at an endpoint, in any window of time, at most the capacity and what is refilled in that
time; a bucket holds no less than nothing and no more than the capacity; and the checks of others make no difference. -/
theorem rate_bounded (rate : Rate) (limited : 0 < rate.capacity) (checks : List Check) (timely : Timely checks)
    (fixed : ∀ check ∈ checks, check.rate = rate) (clients : ∀ check ∈ checks, '|' ∉ check.client.toList) :
    (∀ (endpoint client : String) (start length : Rat), '|' ∉ client.toList → 0 ≤ length →
      (granted endpoint client start length (outcomes sweeping {} checks) : Rat) ≤
        rate.capacity + length * rate.capacity / period rate) ∧
    (∀ name bucket, (through sweeping {} checks).buckets.get? name = some bucket →
      0 ≤ bucket.tokens ∧ bucket.tokens ≤ rate.capacity) ∧
    (∀ endpoint client : String, '|' ∉ client.toList →
      (outcomes sweeping {} checks).filter (·.1.isOf endpoint client) =
        outcomes sweeping {} (checks.filter (·.isOf endpoint client))) := by
  obtain ⟨decided, now, alike⟩ := run_of_fixed timely fixed
  refine ⟨?_, ?_, ?_⟩
  · intro endpoint client start length plain nonneg
    have own : ∀ check ∈ checks.filter (·.isOf endpoint client),
        check.key = key endpoint client ∧ check.rate = rate := by
      intro check member
      rw [filter_isOf plain clients] at member
      obtain ⟨listed, same⟩ := List.mem_filter.mp member
      exact ⟨by simpa using same, fixed check listed⟩
    have solvent : Solvent {} := fun _ _ found => by cases found
    have bound := countP_window_le start limited.ne' nonneg solvent own (timely.filter _)
    rw [granted, decided, ← List.countP_filter, filter_outcomes_isOf plain clients]
    calc _ ≤ _ := bound
      _ = rate.capacity + length * rate.capacity / period rate := by rw [refill, mul_div_assoc]
  · intro name bucket found
    have held : (through keeping {} checks).buckets.get? name = some bucket := by
      rcases alike name with same | ⟨gone, _⟩
      · rw [← same, found]
      · rw [gone] at found
        cases found
    obtain ⟨check, member, _, _, left⟩ := leftAt_through checks held
    rw [fixed check member] at left
    exact ⟨left.nonneg, left.bounded⟩
  · intro endpoint client plain
    have fixed : ∀ check ∈ checks.filter (·.isOf endpoint client), check.rate = rate :=
      fun check member => fixed check (List.mem_filter.mp member).1
    obtain ⟨alone, _⟩ := run_of_fixed (timely.filter _) fixed
    rw [decided, filter_outcomes_isOf plain clients, alone]

/-- Three checks at once, one of somebody else, and one after half a period. -/
def burst : List Check :=
  List.replicate 3 ⟨0, "GET /a", "10.0.0.1", ⟨2, 1000⟩⟩ ++
    [⟨0, "GET /a", "10.0.0.2", ⟨2, 1000⟩⟩, ⟨500, "GET /a", "10.0.0.1", ⟨2, 1000⟩⟩]

theorem rate_bounded_burst :
    granted "GET /a" "10.0.0.1" 0 500 (outcomes sweeping {} burst) = 3 ∧
      (granted "GET /a" "10.0.0.1" 0 500 (outcomes sweeping {} burst) : Rat) ≤
        (2 : Nat) + 500 * (2 : Nat) / period ⟨2, 1000⟩ := by
  have timely : Timely burst := by decide +kernel
  have fixed : ∀ check ∈ burst, check.rate = ⟨2, 1000⟩ := by decide +kernel
  have clients : ∀ check ∈ burst, '|' ∉ check.client.toList := by decide +kernel
  have bounded := rate_bounded ⟨2, 1000⟩ (by decide) burst timely fixed clients
  exact ⟨by decide +kernel, bounded.1 "GET /a" "10.0.0.1" 0 500 (by decide) (by decide)⟩

end Limiter
end Junction.Limit
