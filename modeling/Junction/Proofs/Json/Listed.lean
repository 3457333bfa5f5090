import Junction.Json.Projection
import Junction.Proofs.Data.Onward
import Junction.Proofs.Json.Dotted
import Junction.Proofs.Json.Obstruction

/-!
Projections that keep what they list. The result grows by one write for each listed path that leads somewhere. Before
each of them it is, along the listed paths, made of objects with the fields that lead on, and at them the source itself
(`Keeps`), so no write fails or undoes an earlier one.
-/

namespace Junction.Json

variable {path way : Path} {listed : List (List String)} {source kept value found child : Json} {name : String}

/-! ## Names -/

/-- The names of a path. -/
def Path.names (path : Path) : List String := path.map Segment.name

/-- A path that is made of names which no array takes for a position. -/
def Path.Named (path : Path) : Prop := ∀ segment ∈ path, segment = .key segment.name ∧ segment.position? = none

theorem Path.named_of_isDotted {key : String} (dotted : IsDotted key) : Named (ofText key) := by
  intro segment member
  rw [ofText_of_isDotted dotted] at member
  obtain ⟨name, piece, rfl⟩ := List.mem_map.mp member
  obtain ⟨chars, cut, rfl⟩ := List.mem_map.mp piece
  refine ⟨rfl, ?_⟩
  rw [Segment.position?, String.toList_ofList]
  exact (dotted.names chars cut).2.2

theorem Path.ne_nil_of_isDotted {key : String} (dotted : IsDotted key) : ofText key ≠ [] := by
  rw [ofText_of_isDotted dotted, Text.split, List.map_map]
  intro none
  exact Text.pieces_ne_nil _ _ (List.map_eq_nil_iff.mp none)

/-- A name that is no position leads on in an object only. -/
theorem child?_of_name {segment other : Segment} (unnumbered : segment.position? = none) (same : other.name = segment.name)
    (found : value.child? segment = some child) : value.child? other = some child := by
  cases value with
  | object fields => rwa [child?, same]
  | array items =>
    rw [child?, unnumbered] at found
    cases found
  | null | bool | number | text => cases found

/-! ## What is kept -/

/-- What is kept of a value: all of it, if a path ends there, and else an object of the fields that paths go on to. -/
inductive Keeps : List (List String) → Json → Json → Prop where
  | whole {listed : List (List String)} {source : Json} (ends : [] ∈ listed) : Keeps listed source source
  | part {listed : List (List String)} {source : Json} {fields : List (String × Json)} (goesOn : [] ∉ listed)
    (distinct : (fields.map (·.1)).Nodup) (names : ∀ name, name ∈ fields.map (·.1) ↔ onward name listed ≠ [])
    (sources : ∀ name, name ∈ fields.map (·.1) → (source.child? (.key name)).isSome)
    (each : ∀ name kept child, Keyed.get? name fields = some kept → source.child? (.key name) = some child →
      Keeps (onward name listed) child kept) : Keeps listed source (.object fields)

theorem keeps_nothing (source : Json) : Keeps [] source (.object []) :=
  .part List.not_mem_nil List.nodup_nil (by simp [onward]) nofun nofun

/-- A path that goes on writes into null what it writes into an object without fields. -/
theorem setAt_null (named : Path.Named path) (new : Json) : setAt new path .null = setAt new path (.object []) := by
  cases path with
  | nil => rfl
  | cons segment rest =>
    have key := (named segment List.mem_cons_self).1
    rw [key]
    rfl

/-- Writing the source at one more path keeps that path too. -/
theorem setAt_keeps (keeps : Keeps listed source kept) (named : Path.Named path) (there : source.get? path = some found) :
    ∃ changed, setAt found path kept = .ok changed ∧ Keeps (listed ++ [path.names]) source changed := by
  induction path generalizing listed source kept with
  | nil =>
    cases there
    exact ⟨_, rfl, .whole (List.mem_append_right _ List.mem_cons_self)⟩
  | cons segment rest ih =>
    cases keeps with
    | whole ends => exact ⟨source, setAt_get? there, .whole (List.mem_append_left _ ends)⟩
    | part goesOn distinct names sources each =>
      rename_i fields
      obtain ⟨child, next, further⟩ := Option.bind_eq_some_iff.mp there
      have key := (named segment List.mem_cons_self).1
      have tail : Path.Named rest := fun other member => named other (List.mem_cons_of_mem _ member)
      -- under the first name there is what is kept so far, or nothing, in which the write opens an object
      obtain ⟨changed, inner, grown⟩ : ∃ changed,
          setAt found rest (((Json.object fields).child? segment).getD .null) = .ok changed ∧
            Keeps (onward segment.name listed ++ [Path.names rest]) child changed := by
        cases present : Keyed.get? segment.name fields with
        | some old =>
          rw [child?, present]
          exact ih (each segment.name old child present (by rw [← key]; exact next)) tail further
        | none =>
          have unlisted : onward segment.name listed = [] := by
            by_contra some?
            exact Keyed.get?_eq_none_iff.mp present ((names _).mpr some?)
          rw [child?, present, unlisted, Option.getD_none, setAt_null tail]
          exact ih (keeps_nothing child) tail further
      refine ⟨.object (Keyed.put segment.name changed fields), ?_, .part ?_ ?_ ?_ ?_ ?_⟩
      · rw [setAt_object, inner]
        rfl
      · simpa [Path.names] using goesOn
      · exact Keyed.nodup_names_put distinct _ _
      · intro name
        rw [Keyed.mem_names_put, names, onward_append]
        by_cases same : segment.name = name
        · subst same
          simp [Path.names, onward_self]
        · simp [Path.names, onward_of_ne same, Ne.symm same]
      · intro name member
        rcases (Keyed.mem_names_put ..).mp member with rfl | old
        · rw [← key, next]
          rfl
        · exact sources name old
      · intro name old child' present there
        rw [Keyed.get?_put] at present
        rw [onward_append]
        by_cases same : segment.name = name
        · subst same
          rw [if_pos rfl] at present
          cases present
          cases (key ▸ next).symm.trans there
          exact (onward_self segment.name (Path.names rest)).symm ▸ grown
        · rw [if_neg same] at present
          rw [Path.names, List.map_cons, onward_of_ne same, List.append_nil]
          exact each name old child' present there

/-! ## Reading what is kept -/

/-- At the paths there is what the source has there. -/
theorem get?_of_keeps (keeps : Keeps listed source kept) (named : Path.Named path) (member : path.names ∈ listed) :
    kept.get? path = source.get? path := by
  induction path generalizing listed source kept with
  | nil =>
    cases keeps with
    | whole => rfl
    | part goesOn => exact absurd member goesOn
  | cons segment rest ih =>
    cases keeps with
    | whole => rfl
    | part goesOn distinct names sources each =>
      rename_i fields
      have further : Path.names rest ∈ onward segment.name listed := mem_onward.mpr member
      have field := (names segment.name).mpr (List.ne_nil_of_mem further)
      obtain ⟨old, present⟩ : ∃ old, Keyed.get? segment.name fields = some old :=
        Option.ne_none_iff_exists'.mp fun absent => Keyed.get?_eq_none_iff.mp absent field
      obtain ⟨child, next⟩ := Option.isSome_iff_exists.mp (sources _ field)
      have own : source.child? segment = some child := by
        rw [(named segment List.mem_cons_self).1]
        exact next
      rw [get?_cons, get?_cons, child?, present, own, Option.bind_some, Option.bind_some]
      exact ih (each _ _ _ present next) (fun other inside => named other (List.mem_cons_of_mem _ inside)) further

/-- What a way leads to in what is kept: a part of the source at or below one of the paths, or an object that has the
fields which paths go on to and no other. -/
theorem found_of_keeps (keeps : Keeps listed source kept)
    (unnumbered : ∀ names ∈ listed, ∀ name ∈ names, (Segment.key name).position? = none)
    (there : kept.get? way = some found) :
    (∃ names ∈ listed, names <+: way.names ∧ source.get? way = some found) ∨
      ((∀ names ∈ listed, ¬ names <+: way.names) ∧ (way = [] ∨ ∃ names ∈ listed, way.names <+: names) ∧
        ∃ fields, found = .object fields ∧ (fields.map (·.1)).Nodup ∧
          ∀ name, name ∈ fields.map (·.1) ↔ ∃ names ∈ listed, way.names ++ [name] <+: names) := by
  induction way generalizing listed source kept with
  | nil =>
    cases there
    cases keeps with
    | whole ends => exact .inl ⟨[], ends, List.nil_prefix, rfl⟩
    | part goesOn distinct names =>
      refine .inr ⟨?_, .inl rfl, _, rfl, distinct, fun name => (names name).trans onward_ne_nil_iff⟩
      intro path member begins
      exact goesOn (List.prefix_nil.mp begins ▸ member)
  | cons segment way ih =>
    cases keeps with
    | whole ends => exact .inl ⟨[], ends, List.nil_prefix, there⟩
    | part goesOn distinct names sources each =>
      rename_i fields
      obtain ⟨old, present, further⟩ := Option.bind_eq_some_iff.mp there
      have field : segment.name ∈ fields.map (·.1) := by
        by_contra absent
        cases (Keyed.get?_eq_none_iff.mpr absent).symm.trans present
      obtain ⟨child, next⟩ := Option.isSome_iff_exists.mp (sources _ field)
      obtain ⟨one, begun⟩ := List.exists_mem_of_ne_nil _ ((names _).mp field)
      have tails : ∀ rest ∈ onward segment.name listed, ∀ name ∈ rest, (Segment.key name).position? = none := by
        intro rest member name inside
        exact unnumbered _ (mem_onward.mp member) name (List.mem_cons_of_mem _ inside)
      rcases ih (each _ _ _ present next) tails further with
        ⟨rest, member, begins, below⟩ | ⟨beside, leads, inner, rfl, once, only⟩
      · refine .inl ⟨_, mem_onward.mp member, List.cons_prefix_cons.mpr ⟨rfl, begins⟩, ?_⟩
        have own : source.child? segment = some child :=
          child?_of_name (unnumbered _ (mem_onward.mp begun) _ List.mem_cons_self) rfl next
        rw [get?_cons, own, Option.bind_some, below]
      · refine .inr ⟨?_, .inr ?_, inner, rfl, once, fun name => (only name).trans (exists_onward_iff _)⟩
        · rintro (_ | ⟨start, rest⟩) member begins
          · exact goesOn member
          · obtain ⟨same, further⟩ := List.cons_prefix_cons.mp begins
            subst same
            exact beside rest (mem_onward.mpr member) further
        · apply (exists_onward_iff _).mp
          rcases leads with rfl | leads
          · exact ⟨one, begun, List.nil_prefix⟩
          · exact leads

/-! ## Projections that keep -/

/-- What there is of a value when nothing but listed paths is kept. -/
structure KeepsOnly (keys : List Path) (before after : Json) : Prop where
  object : after.isObject = true
  listed : ∀ key ∈ keys, after.get? key = before.get? key
  only : ∀ way found, after.get? way = some found →
    (∃ key ∈ keys, (before.get? key).isSome ∧ key.names <+: way.names ∧ before.get? way = some found) ∨
      ((∀ key ∈ keys, (before.get? key).isSome → ¬ key.names <+: way.names) ∧
        (way = [] ∨ ∃ key ∈ keys, (before.get? key).isSome ∧ way.names <+: key.names) ∧
        ∃ fields, found = .object fields ∧ (fields.map (·.1)).Nodup ∧
          ∀ name, name ∈ fields.map (·.1) ↔
            ∃ key ∈ keys, (before.get? key).isSome ∧ way.names ++ [name] <+: key.names)

/-- The names of the paths that lead somewhere. -/
def leading (source : Json) (paths : List Path) : List (List String) :=
  (paths.filter fun path => (source.get? path).isSome).map Path.names

theorem exists_leading_iff {paths : List Path} {p : List String → Prop} :
    (∃ names ∈ leading source paths, p names) ↔ ∃ path ∈ paths, (source.get? path).isSome ∧ p path.names := by
  simp only [leading, List.mem_map, List.mem_filter]
  constructor
  · rintro ⟨_, ⟨path, ⟨member, leads⟩, rfl⟩, holds⟩
    exact ⟨path, member, leads, holds⟩
  · rintro ⟨path, member, leads, holds⟩
    exact ⟨_, ⟨path, ⟨member, leads⟩, rfl⟩, holds⟩

theorem Path.named_eq (named : Named path) : path.names.map Segment.key = path := by
  rw [names, List.map_map]
  conv => rhs; rw [← List.map_id path]
  exact List.map_congr_left fun segment member => (named segment member).1.symm

theorem Path.prefix_of_names {other : Path} (one : Named path) (two : Named other) (begins : path.names <+: other.names) :
    path <+: other := by
  have segments := begins.map Segment.key
  rwa [named_eq one, named_eq two] at segments

theorem get?_isSome_of_prefix {other : Path} (begins : path <+: other) (there : (value.get? other).isSome) :
    (value.get? path).isSome := by
  obtain ⟨rest, rfl⟩ := begins
  rw [get?_append] at there
  cases ahead : value.get? path with
  | none =>
    rw [ahead] at there
    cases there
  | some => rfl

theorem keepsOnly_of_keeps {keys : List Path} (keeps : Keeps (leading source keys) source kept)
    (named : ∀ key ∈ keys, Path.Named key) (filled : ∀ key ∈ keys, key ≠ []) : KeepsOnly keys source kept := by
  have unnumbered : ∀ names ∈ leading source keys, ∀ name ∈ names, (Segment.key name).position? = none := by
    intro names member name inside
    obtain ⟨key, ⟨listed, _⟩, rfl⟩ := by simpa only [leading, List.mem_map, List.mem_filter] using member
    obtain ⟨segment, part, rfl⟩ := List.mem_map.mp inside
    obtain ⟨same, none⟩ := named key listed segment part
    rwa [← same]
  refine ⟨?_, ?_, ?_⟩
  · cases keeps with
    | whole ends =>
      obtain ⟨key, member, _, same⟩ := exists_leading_iff.mp ⟨[], ends, rfl⟩
      exact absurd (List.map_eq_nil_iff.mp same.symm) (filled key member)
    | part => rfl
  · intro key member
    cases ahead : source.get? key with
    | some found =>
      have leads : key.names ∈ leading source keys :=
        List.mem_map_of_mem (List.mem_filter.mpr ⟨member, by rw [ahead]; rfl⟩)
      rw [get?_of_keeps keeps (named key member) leads, ahead]
    | none =>
      by_contra lost
      obtain ⟨found, there⟩ := Option.ne_none_iff_exists'.mp lost
      rcases found_of_keeps keeps unnumbered there with ⟨_, _, _, same⟩ | ⟨_, rfl | longer, _⟩
      · cases ahead.symm.trans same
      · exact filled [] member rfl
      · obtain ⟨path, inside, leads, begins⟩ := exists_leading_iff.mp longer
        have before := get?_isSome_of_prefix (Path.prefix_of_names (named key member) (named path inside) begins) leads
        rw [ahead] at before
        cases before
  · intro way found there
    rcases found_of_keeps keeps unnumbered there with at' | ⟨beside, leads, fields, same, once, only⟩
    · exact .inl (exists_leading_iff.mp at')
    · refine .inr ⟨?_, leads.imp_right exists_leading_iff.mp, fields, same, once,
        fun name => (only name).trans exists_leading_iff⟩
      intro key member leads begins
      exact beside _ (List.mem_map_of_mem (List.mem_filter.mpr ⟨member, leads⟩)) begins

namespace Projection

theorem set_keeps {key : String} (keeps : Keeps listed source kept) (dotted : Path.IsDotted key)
    (there : source.get? (Path.ofText key) = some found) :
    ∃ changed, kept.set (Path.ofText key) found = .ok changed ∧
      Keeps (listed ++ [(Path.ofText key).names]) source changed := by
  obtain ⟨changed, written, more⟩ := setAt_keeps keeps (Path.named_of_isDotted dotted) there
  refine ⟨changed, ?_, more⟩
  rw [Json.set, if_neg (by rw [List.isEmpty_iff]; exact Path.ne_nil_of_isDotted dotted), written]

theorem copy_keeps {key : String} (keeps : Keeps listed source kept) (dotted : Path.IsDotted key) :
    Keeps (listed ++ leading source [Path.ofText key]) source (copy source kept key) := by
  rw [copy]
  cases there : source.get? (Path.ofText key) with
  | none =>
    have none : leading source [Path.ofText key] = [] := by simp [leading, there]
    rwa [none, List.append_nil]
  | some found =>
    obtain ⟨changed, written, more⟩ := set_keeps keeps dotted there
    have one : leading source [Path.ofText key] = [(Path.ofText key).names] := by simp [leading, there]
    rw [one]
    simpa only [written] using more

theorem foldl_copy_keeps {keys : List String} (keeps : Keeps listed source kept) (dotted : ∀ key ∈ keys, Path.IsDotted key) :
    Keeps (listed ++ leading source (keys.map Path.ofText)) source (keys.foldl (copy source) kept) := by
  induction keys generalizing listed kept with
  | nil => simpa [leading] using keeps
  | cons key keys ih =>
    have step := ih (copy_keeps keeps (dotted key List.mem_cons_self)) fun other member =>
      dotted other (List.mem_cons_of_mem _ member)
    have split : leading source ((key :: keys).map Path.ofText) =
        leading source [Path.ofText key] ++ leading source (keys.map Path.ofText) := by
      rw [leading, leading, leading, ← List.map_append, ← List.filter_append]
      rfl
    rw [List.foldl_cons, split, ← List.append_assoc]
    exact step

theorem selection_of_keep {tags : List Bool} (filled : tags ≠ []) (keep : ∀ tag ∈ tags, tag = true) :
    selection tags = .keep := by
  rw [selection, if_neg (by rwa [List.isEmpty_iff]), if_pos (List.all_eq_true.mpr keep)]

/-- The paths of the entries on fields. -/
def paths (projection : Projection) : List Path := projection.fieldEntries.map fun entry => Path.ofText entry.1

theorem apply_of_keep {projection : Projection} (filled : projection.fieldEntries ≠ [])
    (keeps : ∀ entry ∈ projection.fieldEntries, entry.2 = true) (fields : List (String × Json)) :
    projection.apply (.object fields) =
      (projection.fieldEntries.map (·.1)).foldl (copy (.object fields)) (.object []) := by
  rw [apply, applyObject, kind, selection_of_keep (by simpa using filled) (by simpa using keeps)]

theorem foldl_entries_keeps {entries : List (String × Bool)} (dotted : ∀ entry ∈ entries, Path.IsDotted entry.1)
    (source : Json) :
    Keeps (leading source (entries.map fun entry => Path.ofText entry.1)) source
      ((entries.map (·.1)).foldl (copy source) (.object [])) := by
  have folded := foldl_copy_keeps (keeps_nothing source) (List.forall_mem_map.mpr dotted)
  rwa [List.nil_append, List.map_map] at folded

/-- With no entry on fields an object is let pass. With some, all of which keep paths of names between dots, it becomes
an object in which every listed path leads to what it led to, or nowhere if it led nowhere. Any other way leads below a
listed path, to what it led to, or to an object of the fields that listed paths go on to. No write on the way there
fails. -/
theorem apply_keepsOnly (projection : Projection) (keeps : ∀ entry ∈ projection.fieldEntries, entry.2 = true)
    (dotted : ∀ entry ∈ projection.fieldEntries, Path.IsDotted entry.1) (fields : List (String × Json)) :
    (projection.fieldEntries = [] → projection.apply (.object fields) = .object fields) ∧
    (projection.fieldEntries ≠ [] →
      KeepsOnly projection.paths (.object fields) (projection.apply (.object fields)) ∧
      ∀ front entry back found, projection.fieldEntries = front ++ entry :: back →
        (Json.object fields).get? (Path.ofText entry.1) = some found →
        ∃ written, ((front.map (·.1)).foldl (copy (.object fields)) (.object [])).set (Path.ofText entry.1) found =
          .ok written) := by
  constructor
  · intro none
    have kind : projection.kind = .all := by rw [Projection.kind, none]; rfl
    simp only [apply, applyObject, kind]
  · intro filled
    constructor
    · rw [apply_of_keep filled keeps]
      apply keepsOnly_of_keeps (foldl_entries_keeps dotted _)
      · exact List.forall_mem_map.mpr fun entry listed => Path.named_of_isDotted (dotted entry listed)
      · exact List.forall_mem_map.mpr fun entry listed => Path.ne_nil_of_isDotted (dotted entry listed)
    · intro front entry back found split there
      rw [split] at dotted
      obtain ⟨before, after⟩ := List.forall_mem_append.mp dotted
      obtain ⟨written, set, _⟩ := set_keeps (foldl_entries_keeps before _) (after entry List.mem_cons_self) there
      exact ⟨written, set⟩

/-- A user with a secret, and with an address in which the number is null. -/
def user : Json := .object
  [("address", .object [("street", .text "Rua A"), ("number", .null)]), ("secret", .text "x"),
    ("name", .object [("first", .text "Ana"), ("last", .text "B")])]

/-- A part of the name, all of it, a secret part of it that is not there, and the number of the address. -/
def userView : Projection :=
  ⟨[("name.first", true), ("name", true), ("name.secret", true), ("address.number", true)]⟩

/-- Overlapping paths, paths that lead to null and paths that lead nowhere are kept as listed. -/
theorem apply_keepsOnly_user :
    (∀ entry ∈ userView.fieldEntries, entry.2 = true) ∧ (∀ entry ∈ userView.fieldEntries, Path.IsDotted entry.1) ∧
      KeepsOnly userView.paths user (userView.apply user) ∧
      userView.apply user = .object
        [("name", .object [("first", .text "Ana"), ("last", .text "B")]), ("address", .object [("number", .null)])] := by
  have keeps : ∀ entry ∈ userView.fieldEntries, entry.2 = true := by decide
  have dotted : ∀ entry ∈ userView.fieldEntries, Path.IsDotted entry.1 := by
    intro entry member
    have listed : entry ∈ userView.entries := List.mem_of_mem_filter member
    simp only [userView, List.mem_cons, List.not_mem_nil, or_false] at listed
    rcases listed with rfl | rfl | rfl | rfl <;>
      exact ⟨⟨by rintro c ⟨⟩; rfl, by rintro c ⟨⟩; rfl⟩, by decide, by decide +kernel⟩
  exact ⟨keeps, dotted, ((apply_keepsOnly userView keeps dotted _).2 (by decide)).1, rfl⟩

/-- A projection without entries lists nothing, and keeps everything. -/
theorem not_keepsOnly_empty :
    (∀ entry ∈ (Projection.mk []).fieldEntries, entry.2 = true ∧ Path.IsDotted entry.1) ∧
      ¬ KeepsOnly (Projection.mk []).paths user ((Projection.mk []).apply user) := by
  refine ⟨nofun, fun keeps => ?_⟩
  rcases keeps.only [.key "secret"] _ rfl with ⟨_, listed, _⟩ | ⟨_, none | ⟨_, listed, _⟩, _⟩
  · cases listed
  · cases none
  · cases listed

end Projection
end Junction.Json
