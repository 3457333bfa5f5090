import Junction.Proofs.Limit.Check
import Mathlib.Data.List.Induction

/-!
Whether it is noticed that full buckets are removed. The same checks are run with the sweeps and without them; the two
limiters then differ in buckets that were full under the rate of their last check (`Alike`). Nobody notices as long as
such a bucket is full under the rate of its next check, too. A rate that has been raised in between tells the two apart:
what is kept has to refill first, and what has been removed starts full.
-/

namespace Junction.Limit

open Config (Rate)

namespace Limiter

/-! ## Runs -/

section Runs

variable (step : Limiter → Check → Limiter × Bool)

/-- The limiter after checks, one after another. -/
def through (limiter : Limiter) (checks : List Check) : Limiter :=
  checks.foldl (fun limiter check => (step limiter check).1) limiter

/-- Checks, each with whether it is allowed. -/
def outcomes : Limiter → List Check → List (Check × Bool)
  | _, [] => []
  | limiter, check :: rest => (check, (step limiter check).2) :: outcomes (step limiter check).1 rest

theorem through_append (limiter : Limiter) (before after : List Check) :
    through step limiter (before ++ after) = through step (through step limiter before) after :=
  List.foldl_append

theorem through_concat (limiter : Limiter) (checks : List Check) (check : Check) :
    through step limiter (checks ++ [check]) = (step (through step limiter checks) check).1 :=
  through_append ..

theorem outcomes_append (limiter : Limiter) (before after : List Check) :
    outcomes step limiter (before ++ after) =
      outcomes step limiter before ++ outcomes step (through step limiter before) after := by
  induction before generalizing limiter with
  | nil => rfl
  | cons check rest ih => exact congrArg (_ :: ·) (ih _)

theorem outcomes_concat (limiter : Limiter) (checks : List Check) (check : Check) :
    outcomes step limiter (checks ++ [check]) =
      outcomes step limiter checks ++ [(check, (step (through step limiter checks) check).2)] :=
  outcomes_append ..

theorem length_outcomes (limiter : Limiter) (checks : List Check) :
    (outcomes step limiter checks).length = checks.length := by
  induction checks generalizing limiter with
  | nil => rfl
  | cons check rest ih => simp [outcomes, ih]

end Runs

/-- Checks in the order of their times. -/
def Timely (checks : List Check) : Prop := checks.Pairwise fun earlier later => earlier.time ≤ later.time

instance (checks : List Check) : Decidable (Timely checks) :=
  inferInstanceAs (Decidable (checks.Pairwise fun earlier later => earlier.time ≤ later.time))

theorem timely_concat {checks : List Check} {check : Check} (timely : Timely (checks ++ [check])) :
    Timely checks ∧ ∀ earlier ∈ checks, earlier.time ≤ check.time := by
  obtain ⟨before, _, below⟩ := List.pairwise_append.mp timely
  exact ⟨before, fun earlier member => below earlier member check List.mem_cons_self⟩

theorem exists_past (checks : List Check) : ∃ now, ∀ check ∈ checks, check.time ≤ now := by
  induction checks with
  | nil => exact ⟨0, fun _ member => by cases member⟩
  | cons check rest ih =>
    obtain ⟨now, past⟩ := ih
    refine ⟨max check.time now, ?_⟩
    intro other member
    rcases List.mem_cons.mp member with rfl | later
    · exact le_max_left ..
    · exact (past other later).trans (le_max_right ..)

/-! ## With and without sweeps -/

variable {swept kept : Limiter} {check : Check} {checks : List Check} {now : Rat}

/-- Two limiters that differ only in what sweeps have removed by now. -/
def Alike (now : Rat) (swept kept : Limiter) : Prop :=
  ∀ name, Swept now (kept.buckets.get? name) (swept.buckets.get? name)

theorem Swept.mono {later : Rat} {before after : Option Bucket} (sweep : Swept now before after)
    (ordered : now ≤ later) : Swept later before after := by
  rcases sweep with same | ⟨gone, bucket, found, full⟩
  · exact .inl same
  · exact .inr ⟨gone, bucket, found, full.trans ordered⟩

theorem Swept.trans {before middle after : Option Bucket} (first : Swept now before middle)
    (second : Swept now middle after) : Swept now before after := by
  rcases second with rfl | ⟨gone, bucket, found, full⟩
  · exact first
  · rcases first with rfl | ⟨absent, _⟩
    · exact .inr ⟨gone, bucket, found, full⟩
    · rw [absent] at found
      cases found

theorem Alike.countCheck (alike : Alike now swept kept) : Alike now (swept.countCheck now) kept :=
  fun name => (alike name).trans (swept_countCheck swept now name)

/-- A check that finds no bucket, because of sweeps, would find a full one without them. -/
def FullIfGone (swept kept : Limiter) (check : Check) : Prop :=
  check.rate.capacity ≠ 0 → (swept.countCheck check.time).buckets.get? check.key = none →
    kept.tokens check = check.rate.capacity

theorem Alike.tokens_eq (alike : Alike check.time swept kept) (limited : check.rate.capacity ≠ 0)
    (full : FullIfGone swept kept check) : (swept.countCheck check.time).tokens check = kept.tokens check := by
  rcases alike.countCheck check.key with same | ⟨gone, _⟩
  · simp only [tokens, bucketOf, same]
  · rw [tokens_of_none gone, full limited gone]

/-- A check that does not notice the sweeps leaves limiters that are alike again. -/
theorem Alike.step (alike : Alike check.time swept kept) (full : FullIfGone swept kept check) :
    (swept.sweeping check).2 = (kept.keeping check).2 ∧
      Alike check.time (swept.sweeping check).1 (kept.keeping check).1 := by
  by_cases unlimited : check.rate.capacity = 0
  · simp only [sweeping_eq, keeping, unlimited, if_true]
    exact ⟨trivial, alike⟩
  · have same := alike.tokens_eq unlimited full
    have drawn : ((swept.countCheck check.time).bucketOf check).take check.rate check.time =
        (kept.bucketOf check).take check.rate check.time := Bucket.take_congr same
    simp only [sweeping_eq, keeping, unlimited, if_false]
    constructor
    · show (((swept.countCheck check.time).bucketOf check).take check.rate check.time).2 = _
      rw [drawn]
      rfl
    · intro name
      rw [get?_draw, get?_draw, drawn]
      split
      · exact .inl rfl
      · exact alike.countCheck name

/-- Limiters stay alike, and decide alike, as long as no check notices the sweeps. -/
theorem alike_through (timely : Timely checks)
    (full : ∀ before check, before ++ [check] <+: checks →
      Alike check.time (through sweeping {} before) (through keeping {} before) →
        FullIfGone (through sweeping {} before) (through keeping {} before) check)
    (past : ∀ check ∈ checks, check.time ≤ now) :
    outcomes sweeping {} checks = outcomes keeping {} checks ∧
      Alike now (through sweeping {} checks) (through keeping {} checks) := by
  induction checks using List.reverseRecOn generalizing now with
  | nil => exact ⟨rfl, fun _ => .inl rfl⟩
  | append_singleton checks check ih =>
    obtain ⟨earlier, below⟩ := timely_concat timely
    have unnoticed := fun before check (first : before ++ [check] <+: checks) =>
      full before check (first.trans (List.prefix_append ..))
    obtain ⟨decided, alike⟩ := ih earlier unnoticed below
    obtain ⟨decides, after⟩ := alike.step (full checks check (List.prefix_refl _) alike)
    have recent : check.time ≤ now := past check (by simp)
    constructor
    · rw [outcomes_concat, outcomes_concat, decided, decides]
    · rw [through_concat, through_concat]
      exact fun name => (after name).mono recent

/-! ## Buckets that are kept -/

theorem solvent_through (checks : List Check) : (through keeping {} checks).Solvent := by
  induction checks using List.reverseRecOn with
  | nil =>
    intro name bucket found
    cases found
  | append_singleton checks check ih =>
    rw [through_concat, keeping]
    split
    · exact ih
    · exact ih.draw check

/-- Every bucket is as its last check has left it. -/
theorem leftAt_through (checks : List Check) {name : String} {bucket : Bucket}
    (found : (through keeping {} checks).buckets.get? name = some bucket) :
    ∃ check ∈ checks, check.key = name ∧ check.rate.capacity ≠ 0 ∧ bucket.LeftAt check.rate check.time := by
  induction checks using List.reverseRecOn generalizing name bucket with
  | nil => cases found
  | append_singleton checks last ih =>
    have before : ∀ {name bucket}, (through keeping {} checks).buckets.get? name = some bucket →
        ∃ check ∈ checks ++ [last], check.key = name ∧ check.rate.capacity ≠ 0 ∧
          bucket.LeftAt check.rate check.time := by
      intro name bucket found
      obtain ⟨check, member, rest⟩ := ih found
      exact ⟨check, List.mem_append_left _ member, rest⟩
    rw [through_concat, keeping] at found
    split at found
    · exact before found
    · rename_i limited
      rw [get?_draw] at found
      split at found
      · rename_i own
        cases found
        exact ⟨last, by simp, own, limited, Bucket.leftAt_take ((solvent_through checks).bucketOf last) ..⟩
      · exact before found

/-- No check comes under a rate with a greater capacity or a longer period than an earlier check of its bucket. -/
def Unraised (checks : List Check) : Prop :=
  checks.Pairwise fun earlier later => earlier.key = later.key →
    later.rate.capacity ≤ earlier.rate.capacity ∧ period later.rate ≤ period earlier.rate

/-- A bucket that was left under a rate which is not raised by a check is full for it once it is swept away. -/
theorem Alike.fullIfGone (alike : Alike check.time swept kept)
    (lowered : ∀ bucket, kept.buckets.get? check.key = some bucket → ∃ rate time, rate.capacity ≠ 0 ∧
      bucket.LeftAt rate time ∧ check.rate.capacity ≤ rate.capacity ∧ period check.rate ≤ period rate) :
    FullIfGone swept kept check := by
  intro _ gone
  rcases alike.countCheck check.key with same | ⟨_, bucket, found, full⟩
  · exact tokens_of_none (same.symm.trans gone)
  · obtain ⟨rate, time, limited, left, capacity, shorter⟩ := lowered bucket found
    simp only [tokens, bucketOf, found, Option.getD_some]
    exact left.available_of_fullAt limited capacity shorter full

theorem fullIfGone_of_unraised {before : List Check} (unraised : Unraised (before ++ [check]))
    (alike : Alike check.time (through sweeping {} before) (through keeping {} before)) :
    FullIfGone (through sweeping {} before) (through keeping {} before) check := by
  apply alike.fullIfGone
  intro bucket found
  obtain ⟨earlier, member, own, limited, left⟩ := leftAt_through before found
  obtain ⟨_, _, below⟩ := List.pairwise_append.mp unraised
  exact ⟨earlier.rate, earlier.time, limited, left, below earlier member check List.mem_cons_self own⟩

/-! ## Repeated checks -/

theorem allowed_of_tokens {times : Nat} (limited : check.rate.capacity ≠ 0)
    (enough : (times : Rat) ≤ (swept.countCheck check.time).tokens check) :
    outcomes sweeping swept (List.replicate times check) = List.replicate times (check, true) := by
  induction times generalizing swept with
  | zero => rfl
  | succ times ih =>
    push_cast at enough
    have few : (0 : Rat) ≤ times := Nat.cast_nonneg times
    have allowed : ((swept.countCheck check.time).draw check).2 = true := allowed_draw.mpr (by linarith)
    have left := tokens_draw (swept.countCheck check.time) check
    rw [taken, allowed, if_pos rfl] at left
    -- The next sweep takes no token from what this check has left.
    have still := tokens_le_of_swept
      (swept_countCheck ((swept.countCheck check.time).draw check).1 check.time check.key)
    have rest : outcomes sweeping ((swept.countCheck check.time).draw check).1 (List.replicate times check) =
        List.replicate times (check, true) := ih (by linarith)
    simp only [List.replicate_succ, outcomes, sweeping_eq, limited, if_false, allowed]
    exact congrArg (_ :: ·) rest

theorem tokens_of_allowed {times : Nat} (limited : check.rate.capacity ≠ 0) (nonneg : 0 ≤ kept.tokens check)
    (allowed : outcomes keeping kept (List.replicate times check) = List.replicate times (check, true)) :
    (times : Rat) ≤ kept.tokens check := by
  induction times generalizing kept with
  | zero => simpa using nonneg
  | succ times ih =>
    simp only [List.replicate_succ, outcomes, keeping, limited, if_false, List.cons.injEq, Prod.mk.injEq,
      true_and] at allowed
    obtain ⟨first, rest⟩ := allowed
    have enough := allowed_draw.mp first
    have left := tokens_draw kept check
    rw [taken, first, if_pos rfl] at left
    have some := ih (by linarith) rest
    push_cast
    linarith

/-- Under rates that are not raised limiters decide alike. -/
theorem alike_of_unraised (timely : Timely checks) (unraised : Unraised checks)
    (past : ∀ check ∈ checks, check.time ≤ now) :
    outcomes sweeping {} checks = outcomes keeping {} checks ∧
      Alike now (through sweeping {} checks) (through keeping {} checks) := by
  refine alike_through timely ?_ past
  intro before check first alike
  exact fullIfGone_of_unraised (List.Pairwise.sublist first.sublist unraised) alike

/-- A check that is made again at once finds what it has left. -/
theorem fullIfGone_again {before : List Check}
    (alike : Alike check.time (through sweeping {} (before ++ [check])) (through keeping {} (before ++ [check]))) :
    FullIfGone (through sweeping {} (before ++ [check])) (through keeping {} (before ++ [check])) check := by
  intro limited
  refine alike.fullIfGone ?_ limited
  intro bucket found
  rw [through_concat, keeping, if_neg limited, get?_draw, if_pos rfl] at found
  cases found
  exact ⟨check.rate, check.time, limited, Bucket.leftAt_take ((solvent_through before).bucketOf check) .., le_rfl, le_rfl⟩

theorem alike_repeated {before : List Check}
    (decided : outcomes sweeping {} before = outcomes keeping {} before)
    (alike : Alike check.time (through sweeping {} before) (through keeping {} before))
    (full : FullIfGone (through sweeping {} before) (through keeping {} before) check) (times : Nat) :
    outcomes sweeping {} (before ++ List.replicate times check) =
        outcomes keeping {} (before ++ List.replicate times check) ∧
      Alike check.time (through sweeping {} (before ++ List.replicate times check))
        (through keeping {} (before ++ List.replicate times check)) := by
  induction times with
  | zero => simpa using ⟨decided, alike⟩
  | succ times ih =>
    obtain ⟨same, alike⟩ := ih
    have found : FullIfGone (through sweeping {} (before ++ List.replicate times check))
        (through keeping {} (before ++ List.replicate times check)) check := by
      cases times with
      | zero => simpa using full
      | succ times =>
        rw [List.replicate_succ', ← List.append_assoc] at alike ⊢
        exact fullIfGone_again alike
    obtain ⟨decides, after⟩ := alike.step found
    rw [List.replicate_succ', ← List.append_assoc]
    constructor
    · rw [outcomes_concat, outcomes_concat, same, decides]
    · rw [through_concat, through_concat]
      exact after

/-- Who may repeat a check as often as its rate has capacity notices a bucket that was gone without being full. -/
theorem fullIfGone_of_repeated {before : List Check}
    (repeated : outcomes sweeping {} (before ++ List.replicate check.rate.capacity check) =
      outcomes keeping {} (before ++ List.replicate check.rate.capacity check)) :
    FullIfGone (through sweeping {} before) (through keeping {} before) check := by
  intro limited gone
  rw [outcomes_append, outcomes_append] at repeated
  obtain ⟨_, later⟩ := List.append_inj repeated (by simp only [length_outcomes])
  have fresh := allowed_of_tokens limited (tokens_of_none gone).ge
  have some : 0 ≤ (through keeping {} before).tokens check :=
    Bucket.available_nonneg ((solvent_through before).bucketOf check) ..
  have enough := tokens_of_allowed limited some (later.symm.trans fresh)
  exact le_antisymm (tokens_le _ check) enough

/-! ## When sweeps are noticed -/

/-- Sweeps are not noticed: every check is decided as it is without them, and so is every repetition of it. -/
def Unnoticed (checks : List Check) : Prop :=
  ∀ before check, before ++ [check] <+: checks → ∀ times,
    outcomes sweeping {} (before ++ List.replicate times check) =
      outcomes keeping {} (before ++ List.replicate times check)

theorem timely_of_initial {before : List Check} (timely : Timely checks) (first : before <+: checks) : Timely before :=
  List.Pairwise.sublist first.sublist timely

/-- Sweeps are noticed exactly when a check finds a bucket gone that would not be full for it. So nobody notices them
while no rate is raised. -/
theorem unnoticed_iff (checks : List Check) (timely : Timely checks) :
    (Unnoticed checks ↔ ∀ before check, before ++ [check] <+: checks →
      FullIfGone (through sweeping {} before) (through keeping {} before) check) ∧
    (Unnoticed checks → outcomes sweeping {} checks = outcomes keeping {} checks) ∧
    (Unraised checks → Unnoticed checks) := by
  have unnoticed : (∀ before check, before ++ [check] <+: checks →
      Alike check.time (through sweeping {} before) (through keeping {} before) →
        FullIfGone (through sweeping {} before) (through keeping {} before) check) → Unnoticed checks := by
    intro full before check first times
    obtain ⟨earlier, below⟩ := timely_concat (timely_of_initial timely first)
    have inner := fun before' check' (within : before' ++ [check'] <+: before) =>
      full before' check' (within.trans ((List.prefix_append ..).trans first))
    obtain ⟨decided, alike⟩ := alike_through earlier inner below
    exact (alike_repeated decided alike (full before check first alike) times).1
  refine ⟨⟨?_, ?_⟩, ?_, ?_⟩
  · intro hidden before check first
    exact fullIfGone_of_repeated (hidden before check first check.rate.capacity)
  · intro full
    exact unnoticed fun before check first _ => full before check first
  · intro hidden
    cases checks using List.reverseRecOn with
    | nil => rfl
    | append_singleton checks check => simpa using hidden checks check (List.prefix_refl _) 1
  · intro unraised
    refine unnoticed fun before check first alike => fullIfGone_of_unraised ?_ alike
    exact List.Pairwise.sublist first.sublist unraised

/-- A client draws on its bucket under one rate. Another one checks until the next sweep is due, and then the first one
comes back under another rate. -/
def reloaded (before after : Rate) : List Check :=
  ⟨0, "GET /a", "10.0.0.1", before⟩ :: List.replicate 254 ⟨20, "GET /b", "10.0.0.2", ⟨1000, 3600000⟩⟩ ++
    [⟨20, "GET /a", "10.0.0.1", after⟩]

theorem timely_reloaded (before after : Rate) : Timely (reloaded before after) := by
  simp [Timely, reloaded, List.pairwise_append, -List.reduceReplicate]

theorem unraised_reloaded {before after : Rate} (capacity : after.capacity ≤ before.capacity)
    (shorter : period after ≤ period before) : Unraised (reloaded before after) := by
  have apart : key "GET /b" "10.0.0.2" ≠ key "GET /a" "10.0.0.1" := by decide
  simp [Unraised, reloaded, List.pairwise_append, Check.key, apart, apart.symm, capacity, shorter,
    -List.reduceReplicate]

/-- A bucket of ten tokens is full and gone when three tokens would be enough. -/
theorem unnoticed_iff_lowered :
    Timely (reloaded ⟨10, 5⟩ ⟨3, 2⟩) ∧ Unnoticed (reloaded ⟨10, 5⟩ ⟨3, 2⟩) := by
  have timely := timely_reloaded ⟨10, 5⟩ ⟨3, 2⟩
  have unraised : Unraised (reloaded ⟨10, 5⟩ ⟨3, 2⟩) := unraised_reloaded (by decide) (by decide)
  exact ⟨timely, (unnoticed_iff _ timely).2.2 unraised⟩

/-- One token a millisecond, and then ten an hour: the bucket has been full and is gone, so that the client starts with
ten tokens, where it would wait for the first one. -/
theorem raised_noticed :
    Timely (reloaded ⟨1, 1⟩ ⟨10, 3600000⟩) ∧
      outcomes sweeping {} (reloaded ⟨1, 1⟩ ⟨10, 3600000⟩) ≠ outcomes keeping {} (reloaded ⟨1, 1⟩ ⟨10, 3600000⟩) :=
  ⟨timely_reloaded .., by decide +kernel⟩

end Limiter
end Junction.Limit
