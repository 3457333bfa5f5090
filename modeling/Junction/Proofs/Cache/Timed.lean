import Junction.Proofs.Cache.Store
import Mathlib.Data.List.Induction

/-!
The store in memory is a map of values that last for some time. A key is found as long as the value that was put there
last has not expired (`LastPuts`), whatever the store has removed in the meantime: stores that differ only in what has
expired give the same answers from then on (`Alike`).
-/

namespace Junction.Cache.Store

variable {α : Type} {store one other : Store α} {now later : Nat} {key : String} {slot : Slot α}

/-! ## Steps -/

/-- An operation on a store. -/
inductive Op (α : Type) where
  | get (key : String)
  | set (key : String) (value : α) (forMs : Nat)
  | del (key : String)
  | purge

/-- An operation and the time at which it is done. -/
structure Step (α : Type) where
  time : Nat
  op : Op α

/-- The store after a step, and what is found if the step asks for a key. -/
def perform (store : Store α) (step : Step α) : Store α × Option (Hit α) :=
  match step.op with
  | .get key => store.get step.time key
  | .set key value forMs => (store.set step.time key value forMs, none)
  | .del key => (store.del key, none)
  | .purge => (store.purge step.time, none)

/-- The store after steps, one after another. -/
def through (store : Store α) (steps : List (Step α)) : Store α :=
  steps.foldl (fun store step => (store.perform step).1) store

/-- What is found at each of the steps. -/
def answers : Store α → List (Step α) → List (Option (Hit α))
  | _, [] => []
  | store, step :: rest => (store.perform step).2 :: answers (store.perform step).1 rest

/-- Steps in the order of their times. -/
def Timely (steps : List (Step α)) : Prop := steps.Pairwise fun earlier later => earlier.time ≤ later.time

instance (steps : List (Step α)) : Decidable (Timely steps) :=
  inferInstanceAs (Decidable (steps.Pairwise fun earlier later => earlier.time ≤ later.time))

/-- The store after a step that removes nothing because it has expired. To ask and to sweep changes nothing then, nor does
a value for no time. -/
def kept (store : Store α) (step : Step α) : Store α :=
  match step.op with
  | .set key value forMs =>
    if forMs = 0 then store else { store with slots := store.slots.insert key ⟨value, step.time + forMs⟩ }
  | .del key => store.del key
  | .get _ | .purge => store

/-! ## What was put last -/

/-- A step puts a value under a key for some time. -/
def Step.Puts (step : Step α) (key : String) (slot : Slot α) : Prop :=
  ∃ value forMs, step.op = .set key value forMs ∧ forMs ≠ 0 ∧ slot = ⟨value, step.time + forMs⟩

/-- A step decides what stands under a key: it removes the key, or puts a value there for some time. -/
def Step.Decides (step : Step α) (key : String) : Prop := step.op = .del key ∨ ∃ slot, step.Puts key slot

/-- The last of the steps that decides about a key puts a value there. -/
def LastPuts (steps : List (Step α)) (key : String) (slot : Slot α) : Prop :=
  ∃ before step after, steps = before ++ step :: after ∧ step.Puts key slot ∧ ∀ other ∈ after, ¬ other.Decides key

theorem lastPuts_cons {step : Step α} {rest : List (Step α)} :
    LastPuts (step :: rest) key slot ↔
      LastPuts rest key slot ∨ (step.Puts key slot ∧ ∀ other ∈ rest, ¬ other.Decides key) := by
  constructor
  · rintro ⟨_ | ⟨first, before⟩, put, after, whole, puts, last⟩
    · obtain ⟨rfl, rfl⟩ := List.cons.inj whole
      exact .inr ⟨puts, last⟩
    · obtain ⟨rfl, rfl⟩ := List.cons.inj whole
      exact .inl ⟨before, put, after, rfl, puts, last⟩
  · rintro (⟨before, put, after, rfl, puts, last⟩ | ⟨puts, last⟩)
    · exact ⟨step :: before, put, after, rfl, puts, last⟩
    · exact ⟨[], step, rest, rfl, puts, last⟩

theorem get?_kept (store : Store α) (step : Step α) (key : String) (slot : Slot α) :
    (store.kept step).slots.get? key = some slot ↔
      step.Puts key slot ∨ (¬ step.Decides key ∧ store.slots.get? key = some slot) := by
  obtain ⟨time, op⟩ := step
  cases op with
  | get name => simp [kept, Step.Puts, Step.Decides]
  | purge => simp [kept, Step.Puts, Step.Decides]
  | del name =>
    by_cases here : name = key
    · simp [kept, del, Sorted.get?_erase, Step.Puts, Step.Decides, here]
    · simp [kept, del, Sorted.get?_erase, Step.Puts, Step.Decides, here, Ne.symm here]
  | set name value forMs =>
    by_cases never : forMs = 0
    · simp [kept, Step.Puts, Step.Decides, never]
    · by_cases here : name = key
      · simp [kept, Sorted.get?_insert, Step.Puts, Step.Decides, never, here, eq_comm]
      · simp [kept, Sorted.get?_insert, Step.Puts, Step.Decides, never, here]

/-- Without removals a key has what was put there last, or what it had before. -/
theorem get?_foldl_kept (store : Store α) (steps : List (Step α)) (key : String) (slot : Slot α) :
    (steps.foldl kept store).slots.get? key = some slot ↔
      LastPuts steps key slot ∨ ((∀ step ∈ steps, ¬ step.Decides key) ∧ store.slots.get? key = some slot) := by
  induction steps generalizing store with
  | nil => simp [LastPuts]
  | cons step rest ih =>
    rw [List.foldl_cons, ih, get?_kept, lastPuts_cons, List.forall_mem_cons]
    tauto

/-! ## Stores that differ in what has expired -/

/-- A value has not expired. -/
def isLive (now : Nat) (slot : Slot α) : Bool := now < slot.expires

/-- Stores that have the same values that have not expired. -/
def Alike (now : Nat) (one other : Store α) : Prop :=
  ∀ key, (one.slots.get? key).filter (isLive now) = (other.slots.get? key).filter (isLive now)

theorem Alike.trans {middle : Store α} (first : Alike now one middle) (second : Alike now middle other) :
    Alike now one other := fun key => (first key).trans (second key)

theorem Alike.symm (alike : Alike now one other) : Alike now other one := fun key => (alike key).symm

theorem filter_isLive_of_le (ordered : now ≤ later) (slot : Option (Slot α)) :
    (slot.filter (isLive now)).filter (isLive later) = slot.filter (isLive later) := by
  rw [Option.filter_filter]
  congr 1
  funext slot
  have lives : isLive later slot = true → isLive now slot = true := by
    simp only [isLive, decide_eq_true_eq]
    omega
  by_cases live : isLive later slot = true
  · simp [live, lives live]
  · simp [live]

theorem Alike.mono (ordered : now ≤ later) (alike : Alike now one other) : Alike later one other := by
  intro key
  rw [← filter_isLive_of_le ordered, alike key, filter_isLive_of_le ordered]

theorem alike_purge (store : Store α) (now : Nat) : Alike now (store.purge now) store := by
  intro key
  rw [purge, Sorted.get?_filter]
  exact filter_isLive_of_le (Nat.le_refl now) _

theorem alike_countWrite (store : Store α) (now : Nat) : Alike now (store.countWrite now) store := by
  unfold countWrite
  dsimp only
  split
  · exact alike_purge _ now
  · exact fun _ => rfl

theorem alike_get (store : Store α) (now : Nat) (key : String) : Alike now (store.get now key).1 store := by
  unfold get
  split
  · exact fun _ => rfl
  · rename_i slot listed
    split
    · exact fun _ => rfl
    · rename_i expired
      intro name
      dsimp only
      rw [Sorted.get?_erase]
      by_cases here : name = key
      · rw [if_pos here, here, listed]
        simp [Option.filter, isLive, expired]
      · rw [if_neg here]

theorem Alike.insert (alike : Alike now one other) (key : String) (slot : Slot α) (written written' : Nat) :
    Alike now ⟨one.slots.insert key slot, written⟩ ⟨other.slots.insert key slot, written'⟩ := by
  intro name
  simp only [Sorted.get?_insert]
  by_cases here : key = name
  · simp only [if_pos here]
  · simp only [if_neg here]
    exact alike name

theorem Alike.del (alike : Alike now one other) (key : String) : Alike now (one.del key) (other.del key) := by
  intro name
  simp only [Store.del, Sorted.get?_erase]
  by_cases here : name = key
  · simp only [if_pos here]
  · simp only [if_neg here]
    exact alike name

/-- What a step removes beside a key that it is to remove has expired. -/
theorem alike_kept (store : Store α) (step : Step α) : Alike step.time (store.perform step).1 (store.kept step) := by
  obtain ⟨time, op⟩ := step
  cases op with
  | get key => exact alike_get store time key
  | purge => exact alike_purge store time
  | del key => exact fun _ => rfl
  | set key value forMs =>
    simp only [perform, kept, set]
    split
    · exact fun _ => rfl
    · exact (alike_countWrite store time).insert key _ _ _

theorem Alike.kept (alike : Alike now one other) (step : Step α) : Alike now (one.kept step) (other.kept step) := by
  obtain ⟨time, op⟩ := step
  cases op with
  | get key => exact alike
  | purge => exact alike
  | del key => exact alike.del key
  | set key value forMs =>
    simp only [Store.kept]
    split
    · exact alike
    · exact alike.insert key _ _ _

theorem Alike.perform (alike : Alike now one other) {step : Step α} (ordered : now ≤ step.time) :
    Alike step.time (one.perform step).1 (other.perform step).1 :=
  -- Both are first freed of their removals, which need not be the same: the counts of writes may differ.
  (alike_kept one step).trans (((alike.mono ordered).kept step).trans (alike_kept other step).symm)

/-- What is found is the value that is there and has not expired. -/
theorem snd_get (store : Store α) (now : Nat) (key : String) :
    (store.get now key).2 =
      ((store.slots.get? key).filter (isLive now)).map fun slot => ⟨slot.value, slot.expires - now⟩ := by
  unfold get
  cases store.slots.get? key with
  | none => rfl
  | some slot =>
    by_cases live : now < slot.expires
    · simp [Option.filter, isLive, live]
    · simp [Option.filter, isLive, live]

theorem Alike.snd_perform (alike : Alike now one other) {step : Step α} (ordered : now ≤ step.time) :
    (one.perform step).2 = (other.perform step).2 := by
  obtain ⟨time, op⟩ := step
  cases op with
  | get key =>
    have here := alike.mono ordered key
    simp only [Store.perform, snd_get, here]
  | purge => rfl
  | del key => rfl
  | set key value forMs => rfl

/-! ## Runs -/

/-- Stores that differ in what has expired give the same answers from then on. -/
theorem Alike.answers (alike : Alike now one other) {steps : List (Step α)} (timely : Timely steps)
    (past : ∀ step ∈ steps, now ≤ step.time) : answers one steps = answers other steps := by
  induction steps generalizing now one other with
  | nil => rfl
  | cons step rest ih =>
    obtain ⟨ordered, restTimely⟩ := List.pairwise_cons.mp timely
    have here : now ≤ step.time := past step List.mem_cons_self
    rw [Store.answers, Store.answers, alike.snd_perform here, ih (alike.perform here) restTimely ordered]

/-- A run ends in what it would end in without removals, but for what has expired by then. -/
theorem alike_through (store : Store α) {steps : List (Step α)} (past : ∀ step ∈ steps, step.time ≤ now) :
    Alike now (store.through steps) (steps.foldl kept store) := by
  induction steps using List.reverseRecOn with
  | nil => exact fun _ => rfl
  | append_singleton steps step ih =>
    obtain ⟨before, last⟩ := List.forall_mem_append.mp past
    -- What the last step removes has expired at its time, and so by `now`.
    have still : Alike now ((store.through steps).perform step).1 ((store.through steps).kept step) :=
      (alike_kept _ step).mono (last step List.mem_cons_self)
    rw [through, List.foldl_append, List.foldl_append]
    exact still.trans ((ih before).kept step)

/-- A key is found if and only if the value that was put there last has not expired. -/
theorem get_through_iff {steps : List (Step α)} (past : ∀ step ∈ steps, step.time ≤ now) (key : String) (hit : Hit α) :
    ((({} : Store α).through steps).get now key).2 = some hit ↔
      ∃ slot, LastPuts steps key slot ∧ now < slot.expires ∧ hit = ⟨slot.value, slot.expires - now⟩ := by
  have found : ∀ slot, (steps.foldl kept ({} : Store α)).slots.get? key = some slot ↔ LastPuts steps key slot := by
    intro slot
    have empty : ({} : Store α).slots.get? key = none := rfl
    simp [get?_foldl_kept, empty]
  rw [snd_get, alike_through {} past key, Option.map_eq_some_iff]
  simp only [Option.filter_eq_some_iff, found, isLive, decide_eq_true_eq, and_assoc, eq_comm (a := hit)]

/-- A store that has gone through steps in the order of their times finds a key at the time of the next one exactly when
the last step that decides about the key put a value there which has not expired. What the next step removes because it has
expired, or sweeps, makes no difference to any later answer. -/
theorem answers_timed {before later : List (Step α)} {step : Step α} (timely : Timely (before ++ step :: later)) :
    (∀ key hit, ((({} : Store α).through before).get step.time key).2 = some hit ↔
      ∃ slot, LastPuts before key slot ∧ step.time < slot.expires ∧ hit = ⟨slot.value, slot.expires - step.time⟩) ∧
    answers (({} : Store α).through (before ++ [step])) later = answers ((({} : Store α).through before).kept step) later := by
  obtain ⟨_, after, ordered⟩ := List.pairwise_append.mp timely
  obtain ⟨next, laterTimely⟩ := List.pairwise_cons.mp after
  refine ⟨get_through_iff fun earlier member => ordered earlier member step List.mem_cons_self, ?_⟩
  rw [through, List.foldl_append]
  exact (alike_kept _ step).answers laterTimely next

/-- Two values, one of which is asked for when it expires. -/
def expiring : List (Step String) := [⟨0, .set "a" "x" 10⟩, ⟨2, .set "b" "y" 5⟩, ⟨7, .get "b"⟩]

theorem answers_timed_expiring :
    Timely (expiring ++ ⟨8, .purge⟩ :: [⟨9, .get "a"⟩, ⟨10, .get "a"⟩]) ∧
      ((({} : Store String).through expiring).get 8 "a").2 = some ⟨"x", 2⟩ ∧
      answers (({} : Store String).through (expiring ++ [⟨8, .purge⟩])) [⟨9, .get "a"⟩, ⟨10, .get "a"⟩] =
        [some ⟨"x", 1⟩, none] := by
  have timely : Timely (expiring ++ ⟨8, .purge⟩ :: [⟨9, .get "a"⟩, ⟨10, .get "a"⟩]) := by decide
  obtain ⟨found, same⟩ := answers_timed timely
  have puts : LastPuts expiring "a" ⟨"x", 10⟩ := by
    refine ⟨[], _, _, rfl, ⟨"x", 10, rfl, by decide, rfl⟩, ?_⟩
    simp [Step.Decides, Step.Puts]
  exact ⟨timely, (found "a" ⟨"x", 2⟩).mpr ⟨_, puts, by decide, rfl⟩, same.trans (by decide +kernel)⟩

end Junction.Cache.Store
