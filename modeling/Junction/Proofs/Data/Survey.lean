import Junction.Proofs.Data.Sorted

/-!
Surveys: what is found at places that have an order, each finding once and in the order of its place (`Survey`). There
is one survey of what is found (`Survey.unique`). Surveys of two regions, one before the other, make a survey of both
(`Surveyed.append`), and surveys of the items of a list make one of the list (`Surveyed.items`).
-/

namespace Junction

variable {P Q R α : Type} [LT P] [LT Q] {finds one other : P → R → Prop} {results more : List R}
  {located again : List (P × R)} {place : P} {result : R}

/-- Every finding with its place, once and in the order of the places. -/
structure Survey (finds : P → R → Prop) (located : List (P × R)) : Prop where
  mem_iff : ∀ place result, (place, result) ∈ located ↔ finds place result
  ordered : located.Pairwise fun first second => first.1 < second.1

theorem Survey.unique (asymm : ∀ first second : P, first < second → ¬ second < first)
    (survey : Survey finds located) (survey' : Survey finds again) : again = located := by
  refine Sorted.eq_of_mem_iff (fun first second => asymm first.1 second.1) survey'.ordered survey.ordered ?_
  rintro ⟨place, result⟩
  rw [survey.mem_iff, survey'.mem_iff]

/-- The results are those of a survey. -/
def Surveyed (finds : P → R → Prop) (results : List R) : Prop :=
  ∃ located, Survey finds located ∧ results = located.map Prod.snd

namespace Surveyed

theorem congr (surveyed : Surveyed one results) (same : ∀ place result, one place result ↔ other place result) :
    Surveyed other results := by
  obtain ⟨located, survey, there⟩ := surveyed
  exact ⟨located, ⟨fun place result => (survey.mem_iff place result).trans (same place result), survey.ordered⟩, there⟩

theorem eq_nil_iff (surveyed : Surveyed finds results) :
    results = [] ↔ ∀ place result, ¬ finds place result := by
  obtain ⟨located, survey, rfl⟩ := surveyed
  rw [List.map_eq_nil_iff, List.eq_nil_iff_forall_not_mem]
  constructor
  · intro none place result found
    exact none (place, result) ((survey.mem_iff place result).mpr found)
  · rintro none ⟨place, result⟩ member
    exact none place result ((survey.mem_iff place result).mp member)

/-- Where nothing is found there are no results. -/
theorem nil (none : ∀ place result, ¬ finds place result) : Surveyed finds [] :=
  ⟨[], ⟨fun place result => by simpa using none place result, List.Pairwise.nil⟩, rfl⟩

/-- At one place one thing can be found. -/
theorem ite (place : P) (result : R) (condition : Prop) [Decidable condition] :
    Surveyed (fun found it => condition ∧ found = place ∧ it = result) (if condition then [result] else []) := by
  by_cases holds : condition
  · rw [if_pos holds]
    exact ⟨[(place, result)], ⟨fun found it => by simp [holds], List.pairwise_singleton _ _⟩, rfl⟩
  · rw [if_neg holds]
    exact nil fun found it finding => holds finding.1

/-- One region after another. -/
theorem append (first : Surveyed one results) (second : Surveyed other more)
    (apart : ∀ {place place' result result'}, one place result → other place' result' → place < place') :
    Surveyed (fun place result => one place result ∨ other place result) (results ++ more) := by
  obtain ⟨located, survey, rfl⟩ := first
  obtain ⟨again, survey', rfl⟩ := second
  refine ⟨located ++ again, ⟨?_, ?_⟩, (List.map_append ..).symm⟩
  · intro place result
    rw [List.mem_append, survey.mem_iff, survey'.mem_iff]
  · refine List.pairwise_append.mpr ⟨survey.ordered, survey'.ordered, ?_⟩
    rintro ⟨place, result⟩ found ⟨place', result'⟩ found'
    exact apart ((survey.mem_iff _ _).mp found) ((survey'.mem_iff _ _).mp found')

/-- The places are named anew. -/
theorem image (surveyed : Surveyed finds results) (name : P → Q)
    (mono : ∀ first second, first < second → name first < name second) :
    Surveyed (fun place result => ∃ inner, name inner = place ∧ finds inner result) results := by
  obtain ⟨located, survey, rfl⟩ := surveyed
  refine ⟨located.map fun finding => (name finding.1, finding.2), ⟨?_, ?_⟩, by simp⟩
  · intro place result
    rw [List.mem_map]
    constructor
    · rintro ⟨⟨inner, found⟩, member, same⟩
      cases same
      exact ⟨inner, rfl, (survey.mem_iff _ _).mp member⟩
    · rintro ⟨inner, rfl, found⟩
      exact ⟨(inner, result), (survey.mem_iff _ _).mpr found, rfl⟩
  · exact List.pairwise_map.mpr (survey.ordered.imp fun {first second} earlier => mono first.1 second.1 earlier)

/-- Regions that stand one before the other, each with a survey of its own. -/
theorem regions {list : List α} {check : α → List R} {finds : α → P → R → Prop}
    (surveyed : ∀ item ∈ list, Surveyed (finds item) (check item))
    (apart : list.Pairwise fun item item' => ∀ place place' result result',
      finds item place result → finds item' place' result' → place < place') :
    Surveyed (fun place result => ∃ item ∈ list, finds item place result) (list.flatMap check) := by
  induction list with
  | nil => exact nil fun place result finding => by simp at finding
  | cons item list ih =>
    obtain ⟨before, later⟩ := List.pairwise_cons.mp apart
    have here := surveyed item List.mem_cons_self
    have rest := ih (fun item' member => surveyed item' (List.mem_cons_of_mem _ member)) later
    refine (here.append rest ?_).congr fun place result => by simp
    rintro place place' result result' found ⟨item', member, found'⟩
    exact before item' member place place' result result' found found'

/-- Item by item. What is found at an item and the names of its places may depend on its position. -/
theorem items {list : List α} {check : Nat → α → List R} (finds : Nat → α → P → R → Prop) (name : Nat → α → P → Q)
    (surveyed : ∀ position item, list[position]? = some item →
      Surveyed (finds position item) (check position item))
    (within : ∀ position item first second, first < second → name position item first < name position item second)
    (across : ∀ position position' item item' first second, position < position' → list[position]? = some item →
      list[position']? = some item' → name position item first < name position' item' second) :
    Surveyed (fun place result => ∃ position item inner, list[position]? = some item ∧
      name position item inner = place ∧ finds position item inner result) (list.mapIdx check).flatten := by
  rw [List.mapIdx_eq_zipIdx_map, ← List.flatMap_def]
  refine (regions (fun entry member => (surveyed entry.2 entry.1 (List.mem_zipIdx_iff_getElem?.mp member)).image
    (name entry.2 entry.1) (within entry.2 entry.1)) ?_).congr ?_
  · rw [List.pairwise_iff_getElem]
    intro position position' below below' earlier
    have there := List.mem_zipIdx_iff_getElem?.mp (List.getElem_mem below)
    have there' := List.mem_zipIdx_iff_getElem?.mp (List.getElem_mem below')
    rintro _ _ _ _ ⟨first, rfl, _⟩ ⟨second, rfl, _⟩
    refine across _ _ _ _ first second ?_ there there'
    simpa using earlier
  · intro place result
    constructor
    · rintro ⟨⟨item, position⟩, member, inner, same, found⟩
      exact ⟨position, item, inner, List.mem_zipIdx_iff_getElem?.mp member, same, found⟩
    · rintro ⟨position, item, inner, there, same, found⟩
      exact ⟨(item, position), List.mem_zipIdx_iff_getElem?.mpr there, inner, same, found⟩

theorem flatMap_eq_mapIdx (list : List α) (check : α → List R) :
    list.flatMap check = (list.mapIdx fun _ => check).flatten := by
  induction list with
  | nil => rfl
  | cons item list ih => rw [List.mapIdx_cons, List.flatten_cons, List.flatMap_cons, ih]

/-- Item by item, whatever their positions. -/
theorem flatMap {list : List α} {check : α → List R} (finds : α → P → R → Prop) (name : Nat → α → P → Q)
    (surveyed : ∀ item, Surveyed (finds item) (check item))
    (within : ∀ position item first second, first < second → name position item first < name position item second)
    (across : ∀ position position' item item' first second, position < position' → list[position]? = some item →
      list[position']? = some item' → name position item first < name position' item' second) :
    Surveyed (fun place result => ∃ position item inner, list[position]? = some item ∧
      name position item inner = place ∧ finds item inner result) (list.flatMap check) := by
  rw [flatMap_eq_mapIdx]
  exact items (fun _ => finds) name (fun _ item _ => surveyed item) within across

end Surveyed
end Junction
