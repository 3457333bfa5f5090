import Junction.Json.Renaming
import Junction.Proofs.Data.Keyed
import Junction.Proofs.Json.Names

/-!
Renaming with new names that are used nowhere. Then pairs that are applied one after another do what all do at once
(`renameFields_eq`), at every object of a value, and the pairs the other way round lead back (`apply_reversible`).
-/

namespace Junction.Json
namespace Renaming

variable {names : Renaming} {name : String} {value : Json} {fields : List (String × Json)} {pairs : List (String × String)}

/-! ## All pairs at once -/

/-- The names that are replaced. -/
def olds (names : Renaming) : List String := names.pairs.map (·.1)

/-- The names that are put in their place. -/
def news (names : Renaming) : List String := names.pairs.map (·.2)

/-- The other name of a listed one; every other name stays. -/
def target (names : Renaming) (name : String) : String := (Keyed.get? name names.pairs).getD name

/-- Every pair the other way round. -/
def swapped (names : Renaming) : Renaming := ⟨names.pairs.map Prod.swap⟩

/-- The old names are distinct, the new ones are too, and no new name is an old one. -/
structure Apart (names : Renaming) : Prop where
  olds : names.olds.Nodup
  news : names.news.Nodup
  apart : ∀ name ∈ names.news, name ∉ names.olds

theorem olds_swapped (names : Renaming) : names.swapped.olds = names.news := by
  simp [olds, swapped, news, Function.comp_def]

theorem news_swapped (names : Renaming) : names.swapped.news = names.olds := by
  simp [olds, swapped, news, Function.comp_def]

theorem Apart.swapped (apart : names.Apart) : names.swapped.Apart where
  olds := by rw [olds_swapped]; exact apart.news
  news := by rw [news_swapped]; exact apart.olds
  apart := by
    rw [olds_swapped, news_swapped]
    exact fun name old new => apart.apart name new old

theorem target_of_pair (apart : names.Apart) {pair : String × String} (member : pair ∈ names.pairs) :
    names.target pair.1 = pair.2 := by
  rw [target, Keyed.get?_of_mem apart.olds member, Option.getD_some]

theorem target_of_not_mem (unlisted : name ∉ names.olds) : names.target name = name := by
  rw [target, Keyed.get?_eq_none_iff.mpr unlisted, Option.getD_none]

/-- No old name is left. -/
theorem target_not_mem_olds (apart : names.Apart) (name : String) : names.target name ∉ names.olds := by
  by_cases listed : name ∈ names.olds
  · obtain ⟨pair, member, rfl⟩ := List.mem_map.mp listed
    rw [target_of_pair apart member]
    exact apart.apart pair.2 (List.mem_map_of_mem member)
  · rwa [target_of_not_mem listed]

theorem target_swapped (apart : names.Apart) (unused : name ∉ names.news) : names.swapped.target (names.target name) = name := by
  by_cases listed : name ∈ names.olds
  · obtain ⟨pair, member, rfl⟩ := List.mem_map.mp listed
    have back : pair.swap ∈ names.swapped.pairs := List.mem_map_of_mem member
    rw [target_of_pair apart member]
    exact target_of_pair apart.swapped back
  · rw [target_of_not_mem listed, target_of_not_mem]
    rwa [olds_swapped]

/-! ## The fields of one object -/

/-- The name of a field after one pair. -/
def turned (pair : String × String) (name : String) : String := if name = pair.1 then pair.2 else name

/-- A pair whose new name is not there only changes names. -/
theorem renamePair_eq {pair : String × String} (unused : pair.2 ∉ fields.map (·.1)) :
    renamePair fields pair = fields.map fun field => (turned pair field.1, field.2) := by
  by_cases there : pair.1 ∈ fields.map (·.1)
  · have differ : pair.1 ≠ pair.2 := fun same => unused (same ▸ there)
    have each : ∀ field ∈ fields, renameField pair.1 pair.2 field = some (turned pair field.1, field.2) := by
      intro field member
      have other : field.1 ≠ pair.2 := fun same => unused (same ▸ List.mem_map_of_mem member)
      rw [renameField, turned]
      by_cases here : field.1 = pair.1
      · rw [if_pos here, if_pos here]
      · rw [if_neg here, if_neg here, if_neg other]
    rw [renamePair, if_pos ⟨differ, Keyed.contains_iff.mpr there⟩, List.filterMap_congr each, List.filterMap_eq_map']
  · have each : ∀ field ∈ fields, (turned pair field.1, field.2) = field := by
      intro field member
      have other : field.1 ≠ pair.1 := fun same => there (same ▸ List.mem_map_of_mem member)
      rw [turned, if_neg other]
    rw [renamePair, if_neg fun both => there (Keyed.contains_iff.mp both.2), List.map_congr_left each, List.map_id']

theorem Apart.tail {pair : String × String} (apart : Apart ⟨pair :: pairs⟩) : Apart ⟨pairs⟩ where
  olds := (List.nodup_cons.mp apart.olds).2
  news := (List.nodup_cons.mp apart.news).2
  apart name member listed := apart.apart name (List.mem_cons_of_mem _ member) (List.mem_cons_of_mem _ listed)

/-- The pairs behind the first one do not go on with what it has changed. -/
theorem target_turned {pair : String × String} (apart : Apart ⟨pair :: pairs⟩) (name : String) :
    target ⟨pairs⟩ (turned pair name) = target ⟨pair :: pairs⟩ name := by
  by_cases here : name = pair.1
  · have final : pair.2 ∉ olds ⟨pairs⟩ := fun listed =>
      apart.apart pair.2 List.mem_cons_self (List.mem_cons_of_mem _ listed)
    rw [turned, if_pos here, target_of_not_mem final, here, target_of_pair apart List.mem_cons_self]
  · rw [turned, if_neg here, target, target, Keyed.get?, if_neg (Ne.symm here)]

/-- Pairs one after another change the names as all of them at once. -/
theorem renameFields_eq (apart : names.Apart) (unused : ∀ name ∈ names.news, name ∉ fields.map (·.1)) :
    names.renameFields fields = fields.map fun field => (names.target field.1, field.2) := by
  obtain ⟨pairs⟩ := names
  rw [renameFields]
  induction pairs generalizing fields with
  | nil => exact (List.map_id' fields).symm
  | cons pair pairs ih =>
    -- the new names that are still to come are no more there than before: `pair` only puts its own
    have first := renamePair_eq (unused pair.2 List.mem_cons_self)
    have later : ∀ name ∈ news ⟨pairs⟩, name ∉ (renamePair fields pair).map (·.1) := by
      intro name member there
      rw [first, List.map_map] at there
      obtain ⟨field, listed, rfl⟩ := List.mem_map.mp there
      have new : turned pair field.1 ∈ news ⟨pairs⟩ := member
      by_cases here : field.1 = pair.1
      · rw [turned, if_pos here] at new
        exact (List.nodup_cons.mp apart.news).1 new
      · rw [turned, if_neg here] at new
        exact unused field.1 (List.mem_cons_of_mem _ new) (List.mem_map_of_mem listed)
    rw [List.foldl_cons, ih apart.tail later, first, List.map_map]
    refine List.map_congr_left fun field _ => ?_
    rw [Function.comp_apply, target_turned apart]

/-- Pairs whose old names are not there change nothing. -/
theorem renameFields_of_absent (absent : ∀ name ∈ names.olds, name ∉ fields.map (·.1)) : names.renameFields fields = fields := by
  obtain ⟨pairs⟩ := names
  rw [renameFields]
  induction pairs with
  | nil => rfl
  | cons pair pairs ih =>
    have missing := absent pair.1 List.mem_cons_self
    rw [List.foldl_cons, renamePair, if_neg fun both => missing (Keyed.contains_iff.mp both.2)]
    exact ih fun name member => absent name (List.mem_cons_of_mem _ member)

/-! ## All objects of a value -/

theorem apply_array (names : Renaming) (items : List Json) : names.apply (.array items) = .array (items.map names.apply) := by
  rw [apply]
  congr 1
  induction items with
  | nil => rfl
  | cons item items ih => rw [applyItems, ih, List.map_cons]

theorem apply_object (names : Renaming) (fields : List (String × Json)) :
    names.apply (.object fields) = .object (names.renameFields (fields.map fun field => (field.1, names.apply field.2))) := by
  rw [apply]
  congr 2
  induction fields with
  | nil => rfl
  | cons field fields ih => rw [applyFields, ih, List.map_cons]

theorem apply_eq_mapNames (apart : names.Apart) (unused : ∀ name ∈ names.news, name ∉ value.names) :
    names.apply value = value.mapNames names.target := by
  induction value with
  | null | bool | number | text => rfl
  | array items ih =>
    rw [apply_array, mapNames_array]
    refine congrArg Json.array (List.map_congr_left fun item member => ?_)
    exact ih item member fun name new inside => unused name new (mem_names_of_item member inside)
  | object fields ih =>
    have inner : ∀ field ∈ fields, names.apply field.2 = field.2.mapNames names.target := fun field member =>
      ih field member fun name new inside =>
        unused name new (mem_names_of_field member (List.mem_cons_of_mem _ inside))
    have fresh : ∀ name ∈ names.news, name ∉ (fields.map fun field => (field.1, names.apply field.2)).map (·.1) := by
      intro name new there
      rw [List.map_map] at there
      obtain ⟨field, member, rfl⟩ := List.mem_map.mp there
      exact unused _ new (mem_names_of_field member List.mem_cons_self)
    rw [apply_object, renameFields_eq apart fresh, List.map_map, mapNames_object]
    refine congrArg Json.object (List.map_congr_left fun field member => ?_)
    rw [Function.comp_apply, inner field member, mapField]

theorem apply_of_absent (absent : ∀ name ∈ names.olds, name ∉ value.names) : names.apply value = value := by
  induction value with
  | null | bool | number | text => rfl
  | array items ih =>
    have whole : ∀ item ∈ items, names.apply item = item := fun item member =>
      ih item member fun name old inside => absent name old (mem_names_of_item member inside)
    rw [apply_array, List.map_congr_left whole, List.map_id']
  | object fields ih =>
    have whole : ∀ field ∈ fields, (field.1, names.apply field.2) = field := by
      intro field member
      rw [ih field member fun name old inside =>
        absent name old (mem_names_of_field member (List.mem_cons_of_mem _ inside))]
    rw [apply_object, List.map_congr_left whole, List.map_id', renameFields_of_absent]
    intro name old there
    obtain ⟨field, member, rfl⟩ := List.mem_map.mp there
    exact absent _ old (mem_names_of_field member List.mem_cons_self)

/-- With distinct old names and distinct new ones that are neither old names nor names in the value, renaming replaces the
old names by the new ones and changes nothing else. The pairs the other way round give the value back, and the same pairs
once more change nothing. -/
theorem apply_reversible (apart : names.Apart) (unused : ∀ name ∈ names.news, name ∉ value.names) :
    (names.apply value = value.mapNames names.target ∧
      (∀ pair ∈ names.pairs, names.target pair.1 = pair.2) ∧ ∀ name ∉ names.olds, names.target name = name) ∧
    names.swapped.apply (names.apply value) = value ∧
    names.apply (names.apply value) = names.apply value := by
  have renamed := apply_eq_mapNames apart unused
  have gone : ∀ name ∈ names.olds, name ∉ (value.mapNames names.target).names := by
    intro name old there
    rw [names_mapNames] at there
    obtain ⟨before, _, rfl⟩ := List.mem_map.mp there
    exact target_not_mem_olds apart before old
  refine ⟨⟨renamed, fun pair => target_of_pair apart, fun name => target_of_not_mem⟩, ?_, ?_⟩
  · rw [renamed, apply_eq_mapNames apart.swapped (by rwa [news_swapped]), mapNames_mapNames]
    exact mapNames_eq_self fun name there => target_swapped apart fun new => unused name new there
  · rw [renamed, apply_of_absent gone]

/-- A user with friends. -/
def user : Json := .object
  [("id", ofNat 1), ("name", .text "Ana"), ("friends", .array [.object [("since", .null), ("id", ofNat 2)], .array []])]

/-- Other names for two fields of a user. -/
def userNames : Renaming := ⟨[("name", "fullName"), ("id", "userId")]⟩

/-- Fields are renamed at every depth where they stand, and back. -/
theorem apply_reversible_user :
    userNames.Apart ∧ (∀ name ∈ userNames.news, name ∉ user.names) ∧
      userNames.apply user = .object [("userId", ofNat 1), ("fullName", .text "Ana"),
        ("friends", .array [.object [("since", .null), ("userId", ofNat 2)], .array []])] ∧
      userNames.swapped.apply (userNames.apply user) = user ∧ userNames.apply (userNames.apply user) = userNames.apply user := by
  have apart : userNames.Apart := ⟨by decide, by decide, by decide⟩
  have unused : ∀ name ∈ userNames.news, name ∉ user.names := by decide
  have reversible := apply_reversible apart unused
  exact ⟨apart, unused, reversible.1.1.trans rfl, reversible.2⟩

end Renaming
end Junction.Json
