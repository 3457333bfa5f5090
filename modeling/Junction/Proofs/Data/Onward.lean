import Mathlib.Data.List.Infix

/-!
Ways in a tree as lists of what is passed on them. Ways span what they lead to and all that is behind it. One step down,
what is left are the rests of the ways that begin with this step.
-/

namespace Junction

variable {α : Type} {first : α} {rest : List α} {ways more : List (List α)}

/-! ## What ways span -/

/-- One of the ways leads to where a way ends, or to something that it passes. -/
def Spans (ways : List (List α)) (way : List α) : Prop := ∃ one ∈ ways, one <+: way

/-- Ways that span the same. -/
def SameSpan (ways more : List (List α)) : Prop := ∀ way, Spans ways way ↔ Spans more way

theorem spans_nil_iff : Spans ways [] ↔ [] ∈ ways := by
  constructor
  · rintro ⟨one, member, begins⟩
    rwa [List.prefix_nil.mp begins] at member
  · exact fun member => ⟨[], member, List.nil_prefix⟩

theorem spans_append_iff {way : List α} :
    Spans (ways ++ more) way ↔ Spans ways way ∨ Spans more way := by
  simp only [Spans, List.mem_append, or_and_right, exists_or]

theorem spans_toList_iff {one : Option (List α)} {way : List α} :
    Spans one.toList way ↔ ∃ begun, one = some begun ∧ begun <+: way := by
  cases one <;> simp [Spans]

theorem Spans.mono {way longer : List α} (spans : Spans ways way) (begins : way <+: longer) : Spans ways longer := by
  obtain ⟨one, member, ahead⟩ := spans
  exact ⟨one, member, ahead.trans begins⟩

theorem SameSpan.below_iff (same : SameSpan ways more) : [] ∉ ways ↔ [] ∉ more := by
  rw [← spans_nil_iff, ← spans_nil_iff, same]

/-- With one more way each, both of one length, they span the same exactly when the second way is the first or was spanned
before. -/
theorem SameSpan.append_iff (same : SameSpan ways more) {one other : Option (List α)}
    (beyond : ∀ way, one = some way → ¬ Spans more way)
    (lengths : ∀ way away, one = some way → other = some away → way.length = away.length) :
    SameSpan (ways ++ one.toList) (more ++ other.toList) ↔ ∀ way, one = some way ↔ other = some way ∧ ¬ Spans more way := by
  simp only [SameSpan, spans_append_iff, spans_toList_iff, same _]
  constructor
  · intro still way
    constructor
    · intro found
      have fresh := beyond way found
      obtain ⟨away, there, begins⟩ := ((still way).mp (.inr ⟨way, found, List.prefix_rfl⟩)).resolve_left fresh
      have equal := begins.eq_of_length (lengths way away found there).symm
      rw [equal] at there
      exact ⟨there, fresh⟩
    · rintro ⟨there, fresh⟩
      obtain ⟨away, found, begins⟩ := ((still way).mpr (.inr ⟨way, there, List.prefix_rfl⟩)).resolve_left fresh
      rwa [← begins.eq_of_length (lengths away way found there)]
  · intro own way
    constructor
    · rintro (before | ⟨begun, found, begins⟩)
      · exact .inl before
      · exact .inr ⟨begun, ((own begun).mp found).1, begins⟩
    · rintro (before | ⟨begun, there, begins⟩)
      · exact .inl before
      · by_cases spanned : Spans more begun
        · exact .inl (spanned.mono begins)
        · exact .inr ⟨begun, (own begun).mpr ⟨there, spanned⟩, begins⟩

/-! ## What is left behind a first step -/

variable [DecidableEq α]

/-- What is left of the ways behind a first step. -/
def onward (first : α) (ways : List (List α)) : List (List α) :=
  ways.filterMap fun
    | [] => none
    | start :: rest => if start = first then some rest else none

theorem mem_onward : rest ∈ onward first ways ↔ first :: rest ∈ ways := by
  rw [onward, List.mem_filterMap]
  constructor
  · rintro ⟨_ | ⟨start, tail⟩, member, same⟩
    · cases same
    · by_cases here : start = first
      · simp only [here, if_true, Option.some.injEq] at same
        rwa [here, same] at member
      · simp [here] at same
  · intro member
    exact ⟨_, member, if_pos rfl⟩

theorem onward_append (first : α) (ways more : List (List α)) :
    onward first (ways ++ more) = onward first ways ++ onward first more := List.filterMap_append

theorem onward_self (first : α) (rest : List α) : onward first [first :: rest] = [rest] := by simp [onward]

theorem onward_of_ne {other : α} (differ : first ≠ other) (rest : List α) : onward other [first :: rest] = [] := by
  simp [onward, differ]

theorem exists_onward_iff (way : List α) :
    (∃ rest ∈ onward first ways, way <+: rest) ↔ ∃ whole ∈ ways, first :: way <+: whole := by
  constructor
  · rintro ⟨rest, member, begins⟩
    exact ⟨_, mem_onward.mp member, List.cons_prefix_cons.mpr ⟨rfl, begins⟩⟩
  · rintro ⟨_ | ⟨start, rest⟩, member, begins⟩
    · cases List.prefix_nil.mp begins
    · obtain ⟨same, further⟩ := List.cons_prefix_cons.mp begins
      subst same
      exact ⟨rest, mem_onward.mpr member, further⟩

theorem onward_ne_nil_iff : onward first ways ≠ [] ↔ ∃ whole ∈ ways, [first] <+: whole := by
  rw [← exists_onward_iff]
  constructor
  · intro filled
    obtain ⟨rest, member⟩ := List.exists_mem_of_ne_nil _ filled
    exact ⟨rest, member, List.nil_prefix⟩
  · rintro ⟨rest, member, _⟩
    exact List.ne_nil_of_mem member

/-- Behind a first step, ways span what their rests span, if none leads to the root. -/
theorem spans_cons_iff (below : [] ∉ ways) : Spans ways (first :: rest) ↔ Spans (onward first ways) rest := by
  constructor
  · rintro ⟨_ | ⟨start, one⟩, member, begins⟩
    · exact absurd member below
    · obtain ⟨rfl, further⟩ := List.cons_prefix_cons.mp begins
      exact ⟨one, mem_onward.mpr member, further⟩
  · rintro ⟨one, member, begins⟩
    exact ⟨_, mem_onward.mp member, List.cons_prefix_cons.mpr ⟨rfl, begins⟩⟩

namespace SameSpan

theorem mem_iff (same : SameSpan ways more) (below : [] ∉ ways) (first : α) : [first] ∈ ways ↔ [first] ∈ more := by
  rw [← mem_onward, ← mem_onward, ← spans_nil_iff, ← spans_nil_iff, ← spans_cons_iff below,
    ← spans_cons_iff (same.below_iff.mp below), same]

theorem onward (same : SameSpan ways more) (below : [] ∉ ways) (first : α) :
    SameSpan (onward first ways) (Junction.onward first more) := by
  intro way
  rw [← spans_cons_iff below, ← spans_cons_iff (same.below_iff.mp below), same]

end SameSpan

end Junction
