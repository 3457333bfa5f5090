import Junction.Proofs.Json.Listed
import Junction.Proofs.Json.Without

/-!
Projections that drop what they list. The listed paths are removed one after another, each from what is left, where an
item has the position that it has among the items which still stand. A path takes out what it led to at first unless it
is undercut: an earlier path has taken out an item of an array in which it goes on at that position or behind it.
-/

namespace Junction.Json

variable {segment : Segment} {path rest : Path} {value child : Json} {gone more : List (List Place)} {place : Place}
  {places : List Place} {items : List Json} {start count position : Nat}

open without (withoutItems)

/-! ## Places of paths -/

/-- The place of what a path leads to. -/
def places? (value : Json) : Path → Option (List Place)
  | [] => some []
  | segment :: rest => (value.placeOf segment).bind fun place =>
      (value.child? segment).bind fun child => (places? child rest).map (place :: ·)

/-- What a path lists: the place of what it leads to, if it has a segment and leads somewhere. -/
def lists (value : Json) (path : Path) : List (List Place) := if path = [] then [] else (value.places? path).toList

/-- What paths list. -/
def listed (value : Json) (paths : List Path) : List (List Place) := paths.flatMap value.lists

/-- The places that are out after one more removal. -/
def take (value : Json) (gone : List (List Place)) (path : Path) : List (List Place) :=
  if path = [] then gone else gone ++ (origin gone value path).toList

/-- The places that removals take out one after another. -/
def taken (value : Json) (paths : List Path) : List (List Place) := paths.foldl (take value) []

theorem remove_without (distinct : Distinct value) (gone : List (List Place)) (key : String) :
    Projection.remove (value.without gone) key = value.without (take value gone (Path.ofText key)) := by
  rw [Projection.remove, take]
  by_cases root : Path.ofText key = []
  · rw [root, if_pos rfl]
    rfl
  · rw [if_neg root, delete?_without distinct root]
    cases origin gone value (Path.ofText key) with
    | none => rw [Option.toList_none, List.append_nil]; rfl
    | some places => rfl

theorem foldl_remove (distinct : Distinct value) (gone : List (List Place)) (keys : List String) :
    keys.foldl Projection.remove (value.without gone) = value.without ((keys.map Path.ofText).foldl (take value) gone) := by
  induction keys generalizing gone with
  | nil => rfl
  | cons key keys ih => rw [List.foldl_cons, remove_without distinct, ih, List.map_cons, List.foldl_cons]

theorem places?_cons_some : value.places? (segment :: rest) = some places ↔
    ∃ place child inner, value.placeOf segment = some place ∧ value.child? segment = some child ∧
      child.places? rest = some inner ∧ place :: inner = places := by
  simp only [places?, Option.bind_eq_some_iff, Option.map_eq_some_iff]
  constructor
  · rintro ⟨place, address, child, there, inner, below, same⟩
    exact ⟨place, child, inner, address, there, below, same⟩
  · rintro ⟨place, child, inner, address, there, below, same⟩
    exact ⟨place, address, child, there, inner, below, same⟩

/-! ## What still stands is not out -/

theorem not_spans_origin (distinct : Distinct value) (below : [] ∉ gone) (found : origin gone value path = some places) :
    ¬ Spans gone places := by
  induction path generalizing value gone places with
  | nil =>
    cases found
    rwa [spans_nil_iff]
  | cons segment rest ih =>
    obtain ⟨place, child, inner, standing, beneath, rfl⟩ := origin_cons_some.mp found
    obtain ⟨kept, stands⟩ := stands_of_standing? distinct standing
    rw [spans_cons_iff below]
    exact ih (stands.distinct distinct) (mt mem_onward.mp kept) beneath

theorem standingItem?_congr (same : ∀ position, [.item position] ∈ gone ↔ [.item position] ∈ more) (start count : Nat) :
    standingItem? gone start count items = standingItem? more start count items := by
  induction items generalizing start count with
  | nil => rfl
  | cons item items ih =>
    by_cases listed : [.item start] ∈ gone
    · rw [standingItem?_gone listed, standingItem?_gone ((same start).mp listed), ih]
    · have listed' := mt (same start).mpr listed
      cases count with
      | zero => rw [standingItem?_zero listed, standingItem?_zero listed']
      | succ count => rw [standingItem?_succ listed, standingItem?_succ listed', ih]

theorem standing?_congr (same : SameSpan gone more) (below : [] ∉ gone) (value : Json) (segment : Segment) :
    standing? gone value segment = standing? more value segment := by
  cases value with
  | object fields => simp only [standing?, same.mem_iff below]
  | array items =>
    rw [standing?, standing?]
    simp only [standingItem?_congr fun position => same.mem_iff below (.item position)]
  | null | bool | number | text => rfl

theorem origin_congr (distinct : Distinct value) (same : SameSpan gone more) (below : [] ∉ gone) (path : Path) :
    origin gone value path = origin more value path := by
  induction path generalizing value gone more with
  | nil => rfl
  | cons segment rest ih =>
    rw [origin, origin, ← standing?_congr same below]
    cases standing : standing? gone value segment with
    | none => rfl
    | some found =>
      obtain ⟨place, child⟩ := found
      obtain ⟨kept, stands⟩ := stands_of_standing? distinct standing
      rw [Option.bind_some, Option.bind_some,
        ih (stands.distinct distinct) (same.onward below place) (mt mem_onward.mp kept)]

/-! ## Undercut paths -/

/-- A place that is out undercuts a path: it is an item of an array in which the path goes on at that position or
behind it. -/
inductive Undercuts : Json → List Place → Path → Prop where
  | here {items : List Json} {segment : Segment} {rest : Path} {earlier later : Nat}
    (addressed : segment.position? = some later) (before : earlier ≤ later) :
    Undercuts (.array items) [.item earlier] (segment :: rest)
  | inside {value child : Json} {segment : Segment} {rest : Path} {place : Place} {places : List Place}
    (address : value.placeOf segment = some place) (there : value.child? segment = some child)
    (within : Undercuts child places rest) : Undercuts value (place :: places) (segment :: rest)

theorem clear_onward (clear : ∀ out ∈ gone, ¬ Undercuts value out (segment :: rest))
    (address : value.placeOf segment = some place) (there : value.child? segment = some child) :
    ∀ out ∈ onward place gone, ¬ Undercuts child out rest :=
  fun _ member undercuts => clear _ (mem_onward.mp member) (.inside address there undercuts)

/-- Where nothing before the position is out, and not the item itself, it is the item that stands there. -/
theorem standingItem?_of_kept (kept : ∀ earlier, earlier ≤ count → [.item (start + earlier)] ∉ gone) :
    standingItem? gone start count items = items[count]?.map fun item => (start + count, item) := by
  induction items generalizing start count with
  | nil => rfl
  | cons item items ih =>
    have first : [.item start] ∉ gone := kept 0 (Nat.zero_le count)
    cases count with
    | zero => rw [standingItem?_zero first, List.getElem?_cons_zero, Option.map_some, Nat.add_zero]
    | succ count =>
      rw [standingItem?_succ first, List.getElem?_cons_succ, ih, Nat.add_assoc, Nat.add_comm 1 count]
      intro earlier before
      rw [Nat.add_assoc, Nat.add_comm 1 earlier]
      exact kept (earlier + 1) (Nat.succ_le_succ before)

/-- Where one of them is out, the item that stands there comes later. -/
theorem lt_of_standingItem? {earlier : Nat} (out : [.item (start + earlier)] ∈ gone) (before : earlier ≤ count)
    (found : standingItem? gone start count items = some (position, child)) : start + count < position := by
  induction items generalizing start count earlier with
  | nil => cases found
  | cons item items ih =>
    by_cases listed : [.item start] ∈ gone
    · -- the item at `start` is out, and as many stand before the one that is found as are counted
      rw [standingItem?_gone listed] at found
      obtain ⟨front, back, _, rfl, _, left⟩ := split_of_standingItem? found
      have length : (withoutItems gone (start + 1) front).length ≤ front.length := length_withoutItems_le ..
      omega
    · cases earlier with
      | zero => exact absurd out listed
      | succ earlier =>
        obtain ⟨count, rfl⟩ : ∃ less, count = less + 1 := ⟨count - 1, by omega⟩
        rw [standingItem?_succ listed] at found
        have next : [Place.item (start + 1 + earlier)] ∈ gone := by rwa [Nat.add_assoc, Nat.add_comm 1]
        have further := ih next (Nat.le_of_succ_le_succ before) found
        omega

theorem standing?_of_not_undercuts (clear : ∀ out ∈ gone, ¬ Undercuts value out (segment :: rest)) :
    standing? gone value segment = some (place, child) ↔
      value.placeOf segment = some place ∧ value.child? segment = some child ∧ [place] ∉ gone := by
  cases value with
  | object fields =>
    rw [standing?_object_some, placeOf, child?, Option.some.injEq]
    constructor
    · rintro ⟨kept, there, rfl⟩
      exact ⟨rfl, there, kept⟩
    · rintro ⟨rfl, there, kept⟩
      exact ⟨kept, there, rfl⟩
  | array items =>
    rw [standing?_array_some, placeOf, child?]
    cases addressed : segment.position? with
    | none => simp
    | some later =>
      have kept : ∀ earlier, earlier ≤ later → [Place.item (0 + earlier)] ∉ gone := by
        intro earlier before out
        rw [Nat.zero_add] at out
        exact clear _ out (.here addressed before)
      have own := kept later (Nat.le_refl later)
      rw [Nat.zero_add] at own
      rw [Option.map_some, Option.bind_some, Option.some.injEq]
      constructor
      · rintro ⟨_, _, ⟨⟩, here, rfl⟩
        rw [standingItem?_of_kept kept, Nat.zero_add] at here
        obtain ⟨item, there, same⟩ := Option.map_eq_some_iff.mp here
        cases same
        exact ⟨rfl, there, own⟩
      · rintro ⟨rfl, there, _⟩
        refine ⟨later, later, rfl, ?_, rfl⟩
        rw [standingItem?_of_kept kept, there, Option.map_some, Nat.zero_add]
  | null | bool | number | text => simp [standing?, child?]

/-- A path that is not undercut leads to its own place, if that is not out. -/
theorem origin_of_not_undercuts (below : [] ∉ gone) (clear : ∀ out ∈ gone, ¬ Undercuts value out path) :
    origin gone value path = some places ↔ value.places? path = some places ∧ ¬ Spans gone places := by
  induction path generalizing value gone places with
  | nil =>
    rw [origin, places?]
    constructor
    · intro same
      cases same
      exact ⟨rfl, mt spans_nil_iff.mp below⟩
    · exact fun both => both.1
  | cons segment rest ih =>
    rw [origin_cons_some, places?_cons_some]
    constructor
    · rintro ⟨place, child, inner, standing, further, rfl⟩
      obtain ⟨address, there, kept⟩ := (standing?_of_not_undercuts clear).mp standing
      obtain ⟨own, stays⟩ := (ih (mt mem_onward.mp kept) (clear_onward clear address there)).mp further
      exact ⟨⟨place, child, inner, address, there, own, rfl⟩, mt (spans_cons_iff below).mp stays⟩
    · rintro ⟨⟨place, child, inner, address, there, own, rfl⟩, stays⟩
      rw [spans_cons_iff below] at stays
      have kept : [place] ∉ gone := fun out => stays ⟨[], mem_onward.mpr out, List.nil_prefix⟩
      have standing := (standing?_of_not_undercuts clear).mpr ⟨address, there, kept⟩
      exact ⟨place, child, inner, standing,
        (ih (mt mem_onward.mp kept) (clear_onward clear address there)).mpr ⟨own, stays⟩, rfl⟩

theorem child?_of_standing? (standing : standing? gone value segment = some (place, child))
    (address : value.placeOf segment = some place) : value.child? segment = some child := by
  cases value with
  | object fields => exact (standing?_object_some.mp standing).2.1
  | array items =>
    obtain ⟨_, _, addressed, here, rfl⟩ := standing?_array_some.mp standing
    obtain ⟨front, back, rfl, rfl, _⟩ := split_of_standingItem? here
    rw [placeOf, addressed, Option.map_some, Option.some.injEq, Place.item.injEq, Nat.zero_add] at address
    rw [child?, addressed, Option.bind_some, address, List.getElem?_append_right (Nat.le_refl _), Nat.sub_self,
      List.getElem?_cons_zero]
  | null | bool | number | text => cases standing

/-- An undercut path leads to another place than its own. -/
theorem places?_ne_of_undercuts {out : List Place} (undercuts : Undercuts value out path) (listed : out ∈ gone)
    (found : origin gone value path = some places) : value.places? path ≠ some places := by
  intro own
  -- down to the array that decides, both places go through the same children
  induction undercuts generalizing gone places with
  | @here _ _ _ earlier _ addressed before =>
    obtain ⟨place, child, inner, standing, _, rfl⟩ := origin_cons_some.mp found
    obtain ⟨_, _, _, address, _, _, same⟩ := places?_cons_some.mp own
    cases same
    obtain ⟨_, _, here, stands, rfl⟩ := standing?_array_some.mp standing
    cases addressed.symm.trans here
    rw [placeOf, addressed, Option.map_some, Option.some.injEq, Place.item.injEq] at address
    rw [← Nat.zero_add earlier] at listed
    have moved := lt_of_standingItem? listed before stands
    omega
  | inside address there within ih =>
    obtain ⟨place, child, inner, standing, further, rfl⟩ := origin_cons_some.mp found
    obtain ⟨_, _, _, address', there', own', same⟩ := places?_cons_some.mp own
    cases same
    cases address.symm.trans address'
    cases there.symm.trans there'
    cases there.symm.trans (child?_of_standing? standing address)
    exact ih (mem_onward.mpr listed) further own'

/-! ## Removals one after another -/

/-- A path that does not take out just its own place: it is undercut, and it leads somewhere, or its own place is not out
yet. -/
def Misled (value : Json) (gone : List (List Place)) (path : Path) : Prop :=
  (∃ out ∈ gone, Undercuts value out path) ∧
    ((origin gone value path).isSome ∨ ∃ places, value.places? path = some places ∧ ¬ Spans gone places)

/-- No path is misled when the places of those before it are out. -/
def Steady (value : Json) (paths : List Path) : Prop :=
  ∀ front path back, paths = front ++ path :: back → ¬ Misled value (listed value front) path

theorem not_misled_iff (below : [] ∉ gone) : ¬ Misled value gone path ↔
    ∀ places, origin gone value path = some places ↔ value.places? path = some places ∧ ¬ Spans gone places := by
  constructor
  · intro led places
    by_cases undercut : ∃ out ∈ gone, Undercuts value out path
    · have still := not_or.mp fun leads => led ⟨undercut, leads⟩
      constructor
      · intro found
        exact absurd (by rw [found]; rfl) still.1
      · intro own
        exact absurd ⟨places, own⟩ still.2
    · exact origin_of_not_undercuts below fun out member undercuts => undercut ⟨out, member, undercuts⟩
  · rintro own ⟨⟨out, member, undercuts⟩, some? | ⟨places, there, stays⟩⟩
    · obtain ⟨places, found⟩ := Option.isSome_iff_exists.mp some?
      exact places?_ne_of_undercuts undercuts member found ((own places).mp found).1
    · exact places?_ne_of_undercuts undercuts member ((own places).mpr ⟨there, stays⟩) there

theorem length_of_places? (found : value.places? path = some places) : places.length = path.length := by
  induction path generalizing value places with
  | nil =>
    cases found
    rfl
  | cons segment rest ih =>
    obtain ⟨place, child, inner, _, _, below, rfl⟩ := places?_cons_some.mp found
    rw [List.length_cons, List.length_cons, ih below]

theorem nil_not_mem_listed (value : Json) (paths : List Path) : [] ∉ listed value paths := by
  intro member
  obtain ⟨path, _, inside⟩ := List.mem_flatMap.mp member
  rw [lists] at inside
  split at inside
  · cases inside
  · rename_i filled
    exact filled (List.length_eq_zero_iff.mp (length_of_places? (Option.mem_toList.mp inside)).symm)

/-- One more removal takes out just what one more path lists if that path is not misled, and only then. -/
theorem sameSpan_take_iff (distinct : Distinct value) (below : [] ∉ more) (same : SameSpan gone more) (path : Path) :
    SameSpan (take value gone path) (more ++ value.lists path) ↔ ¬ Misled value more path := by
  by_cases root : path = []
  · subst root
    rw [take, if_pos rfl, lists, if_pos rfl, List.append_nil]
    refine iff_of_true same ?_
    rintro ⟨⟨_, _, undercuts⟩, _⟩
    cases undercuts
  · rw [take, if_neg root, lists, if_neg root, origin_congr distinct same (same.below_iff.mpr below), not_misled_iff below]
    apply same.append_iff
    · exact fun places found => not_spans_origin distinct below found
    · intro places own found there
      rw [length_of_origin found, length_of_places? there]

/-- After any number of removals just what is listed is out when no path is misled, and only then. -/
theorem sameSpan_taken_iff (distinct : Distinct value) (paths : List Path) :
    (∀ front back, paths = front ++ back → SameSpan (taken value front) (listed value front)) ↔ Steady value paths := by
  have extend : ∀ front path, SameSpan (taken value front) (listed value front) →
      (SameSpan (taken value (front ++ [path])) (listed value (front ++ [path])) ↔ ¬ Misled value (listed value front) path) := by
    intro front path same
    rw [taken, List.foldl_append, listed, List.flatMap_append, List.flatMap_singleton]
    exact sameSpan_take_iff distinct (nil_not_mem_listed value front) same path
  constructor
  · intro same front path back split
    exact (extend front path (same front _ split)).mp (same (front ++ [path]) back (by rw [split, List.append_cons]))
  · intro steady front
    induction front using List.reverseRecOn with
    | nil => exact fun _ _ _ => Iff.rfl
    | append_singleton front path ih =>
      intro back split
      rw [List.append_assoc, List.singleton_append] at split
      exact (extend front path (ih _ split)).mpr (steady front path back split)

/-- Paths of which none is undercut by what one before it leads to. -/
theorem steady_of_clear {paths : List Path} (clear : paths.Pairwise fun one other =>
    ∀ places, value.places? one = some places → ¬ Undercuts value places other) : Steady value paths := by
  rintro front path back rfl ⟨⟨out, member, undercuts⟩, _⟩
  obtain ⟨one, before, inside⟩ := List.mem_flatMap.mp member
  rw [lists] at inside
  split at inside
  · cases inside
  · have ahead := (List.pairwise_append.mp clear).2.2 one before path List.mem_cons_self
    exact ahead out (Option.mem_toList.mp inside) undercuts

namespace Projection

theorem selection_of_drop {tags : List Bool} (filled : tags ≠ []) (drop : ∀ tag ∈ tags, tag = false) :
    selection tags = .drop := by
  obtain ⟨first, rest, rfl⟩ := List.exists_cons_of_ne_nil filled
  have one := drop first List.mem_cons_self
  rw [selection, if_neg (by simp), if_neg (by simp [one]), if_pos (by simpa using drop)]

theorem apply_of_drop {projection : Projection} (drops : ∀ entry ∈ projection.fieldEntries, entry.2 = false)
    (fields : List (String × Json)) :
    projection.apply (.object fields) = (projection.fieldEntries.map (·.1)).foldl remove (.object fields) := by
  rw [apply, applyObject, kind]
  by_cases blank : projection.fieldEntries = []
  · rw [blank]
    rfl
  · rw [selection_of_drop (by simpa using blank) (by simpa using drops)]

/-- A projection all of whose entries on fields drop takes out what they lead to one after another, in what is left. It
takes out just what they list, after any number of them, when none of them is misled, and only then. -/
theorem apply_drops_iff (projection : Projection) (drops : ∀ entry ∈ projection.fieldEntries, entry.2 = false)
    {fields : List (String × Json)} (distinct : Distinct (.object fields)) :
    projection.apply (.object fields) = (Json.object fields).without (taken (.object fields) projection.paths) ∧
    ((∀ front back, projection.paths = front ++ back →
      SameSpan (taken (.object fields) front) (listed (.object fields) front)) ↔ Steady (.object fields) projection.paths) ∧
    (Steady (.object fields) projection.paths →
      projection.apply (.object fields) = (Json.object fields).without (listed (.object fields) projection.paths)) := by
  have result : projection.apply (.object fields) =
      (Json.object fields).without (taken (.object fields) projection.paths) := by
    have run := foldl_remove distinct [] (projection.fieldEntries.map (·.1))
    rw [without_nil distinct, List.map_map] at run
    rw [apply_of_drop drops, run]
    rfl
  refine ⟨result, sameSpan_taken_iff distinct _, fun steady => ?_⟩
  have same := (sameSpan_taken_iff distinct _).mpr steady _ [] (List.append_nil _).symm
  rw [result, without_congr distinct same (same.below_iff.mpr (nil_not_mem_listed _ _))]

/-- An order with items and a secret. -/
def order : Json := .object
  [("items", .array [.object [("sku", .text "a"), ("cost", .text "9")], .text "b", .text "c"]),
    ("secret", .object [("key", .text "x"), ("note", .null)])]

/-- The last item, the cost of the first one, and a part of the secret before all of it. -/
def orderView : Projection := ⟨[("items[2]", false), ("items[0].cost", false), ("secret.key", false), ("secret", false)]⟩

/-- Each listed path is gone, and nothing else. -/
theorem apply_drops_order :
    (∀ entry ∈ orderView.fieldEntries, entry.2 = false) ∧ Distinct order ∧ Steady order orderView.paths ∧
      orderView.apply order = order.without (listed order orderView.paths) ∧
      orderView.apply order = .object [("items", .array [.object [("sku", .text "a")], .text "b"])] := by
  have drops : ∀ entry ∈ orderView.fieldEntries, entry.2 = false := by decide
  have distinct : Distinct order := by simp [order]
  have steady : Steady order orderView.paths := by
    apply steady_of_clear
    rw [show orderView.paths = [[.key "items", .index 2], [.key "items", .index 0, .key "cost"],
      [.key "secret", .key "key"], [.key "secret"]] from rfl]
    simp only [List.pairwise_cons, List.forall_mem_cons, List.not_mem_nil, IsEmpty.forall_iff, implies_true, and_true,
      List.Pairwise.nil]
    refine ⟨⟨?items, ?_, ?_⟩, ⟨?_, ?_⟩, ?secret⟩ <;> intro places own undercuts <;> cases Option.some.inj own
    case items.refl =>
      rcases undercuts with _ | ⟨_, there, within⟩
      cases Option.some.inj there
      rcases within with ⟨addressed, before⟩ | ⟨address, _, _⟩
      · cases addressed
        contradiction
      · cases address
    case secret.refl =>
      rcases undercuts with _ | ⟨_, _, within⟩
      cases within
    -- the others go through different fields
    all_goals
      rcases undercuts with _ | ⟨address, _, _⟩
      exact absurd address (by decide)
  exact ⟨drops, distinct, steady, (apply_drops_iff orderView drops distinct).2.2 steady, rfl⟩

/-- Three items. -/
def three : Json := .object [("items", .array [ofNat 1, ofNat 2, ofNat 3])]

/-- The first two of the items. -/
def firstTwo : Projection := ⟨[("items[0]", false), ("items[1]", false)]⟩

/-- The second of two listed items is the last one by the time it is removed. -/
theorem apply_drops_misled :
    (∀ entry ∈ firstTwo.fieldEntries, entry.2 = false) ∧ Distinct three ∧
      three.without (listed three firstTwo.paths) = .object [("items", .array [ofNat 3])] ∧
      firstTwo.apply three = .object [("items", .array [ofNat 2])] ∧
      firstTwo.apply three ≠ three.without (listed three firstTwo.paths) := by
  refine ⟨by decide, by simp [three, ofNat, ofInt], rfl, rfl, ?_⟩
  show Json.object [("items", .array [ofNat 2])] ≠ .object [("items", .array [ofNat 3])]
  simp [ofNat, ofInt]

end Projection
end Junction.Json
