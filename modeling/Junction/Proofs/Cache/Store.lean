import Junction.Cache.Access
import Junction.Proofs.Data.Sorted

/-!
The laws of the store in memory. Asking, removing and sweeping only lose values (`Within`); a write puts one value and
loses others at most.
-/

namespace Junction.Cache.Store

variable {α : Type} {store earlier later : Store α} {now forMs : Nat} {key name : String} {value : α} {slot : Slot α}

/-- A store that has lost some values at most. -/
def Within (later earlier : Store α) : Prop :=
  ∀ name slot, later.slots.get? name = some slot → earlier.slots.get? name = some slot

theorem Within.refl (store : Store α) : store.Within store := fun _ _ found => found

theorem Within.trans {middle : Store α} (first : later.Within middle) (second : middle.Within earlier) :
    later.Within earlier := fun name slot found => second name slot (first name slot found)

theorem purge_within (store : Store α) (now : Nat) : (store.purge now).Within store := by
  intro name slot found
  rw [purge, Sorted.get?_filter, Option.filter_eq_some_iff] at found
  exact found.1

theorem countWrite_within (store : Store α) (now : Nat) : (store.countWrite now).Within store := by
  intro name slot found
  simp only [countWrite] at found
  split at found
  · exact purge_within _ now name slot found
  · exact found

theorem del_within (store : Store α) (key : String) : (store.del key).Within store := by
  intro name slot found
  rw [del, Sorted.get?_erase] at found
  split at found
  · cases found
  · exact found

theorem get_within (store : Store α) (now : Nat) (key : String) : (store.get now key).1.Within store := by
  intro name slot found
  simp only [get] at found
  split at found
  · exact found
  · split at found
    · exact found
    · exact del_within store key name slot found

/-- What is found has been put with a time at which it expires, and that time is still to come. -/
theorem get_eq_some {hit : Hit α} (found : (store.get now key).2 = some hit) :
    ∃ slot, store.slots.get? key = some slot ∧ now < slot.expires ∧ hit = ⟨slot.value, slot.expires - now⟩ := by
  simp only [get] at found
  split at found
  · cases found
  · rename_i slot listed
    split at found
    · rename_i fresh
      cases found
      exact ⟨slot, listed, fresh, rfl⟩
    · cases found

theorem get?_set_self (lasting : 0 < forMs) (store : Store α) (now : Nat) (key : String) (value : α) :
    (store.set now key value forMs).slots.get? key = some ⟨value, now + forMs⟩ := by
  have some : forMs ≠ 0 := Nat.pos_iff_ne_zero.mp lasting
  simp only [set, some, if_false]
  exact Sorted.get?_insert_self ..

/-- After a write a slot is the one that is written, or it was there before. For no time at all nothing is written. -/
theorem slot_of_set (found : (store.set now key value forMs).slots.get? name = some slot) :
    (key = name ∧ 0 < forMs ∧ slot = ⟨value, now + forMs⟩) ∨
      (¬ (key = name ∧ 0 < forMs) ∧ store.slots.get? name = some slot) := by
  simp only [set] at found
  split at found
  · rename_i never
    right
    exact ⟨fun written => by omega, found⟩
  · rename_i lasting
    rw [Sorted.get?_insert] at found
    split at found
    · rename_i same
      cases found
      exact .inl ⟨same, by omega, rfl⟩
    · rename_i different
      right
      exact ⟨fun written => different written.1, countWrite_within store now name slot found⟩

end Junction.Cache.Store
