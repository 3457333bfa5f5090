import Junction.Proofs.Route.Filling
import Mathlib.Algebra.Order.BigOperators.Group.List
import Mathlib.Algebra.Order.Group.Nat
import Mathlib.Data.List.Forall2

/-!
Which paths a template matches, without the parameters. The outline of a template tells what the parts of its paths
have to be; a template matches all paths of an outline exactly if its segments cover it (`covers_of_covers_fresh`), so
that one path with parts that occur in no template stands for all of them.
-/

namespace Junction.Route.Template

variable {segments other : List Segment} {slots slots' : List (Option String)} {path : String}

/-- What the parts of a path have to be: a text, or any part. -/
abbrev Outline := List (Option String)

/-- Segments match whatever follows an outline. -/
inductive Covers : List Segment → Outline → Prop
  | nil : Covers [] []
  | wildcard (name : String) (segments : List Segment) (slots : Outline) : Covers (.wildcard name :: segments) slots
  | literal (text : String) {segments : List Segment} {slots : Outline} (rest : Covers segments slots) :
    Covers (.literal text :: segments) (some text :: slots)
  | param (name : String) (slot : Option String) {segments : List Segment} {slots : Outline}
    (rest : Covers segments slots) : Covers (.param name :: segments) (slot :: slots)

/-- The outline of the paths that are given parts, one by one. -/
def exactly (parts : List (List Char)) : Outline := parts.map fun part => some (String.ofList part)

/-- A template matches a path if its segments cover the parts of the path. -/
theorem isSome_matchParts_iff {parts : List (List Char)} {before : Params} :
    (matchParts segments parts before).isSome = true ↔ Covers segments (exactly parts) := by
  induction segments generalizing parts before with
  | nil =>
    cases parts with
    | nil => exact iff_of_true rfl .nil
    | cons part parts => exact iff_of_false (by simp [matchParts]) (by rintro ⟨⟩)
  | cons segment segments ih =>
    cases segment with
    | wildcard name => exact iff_of_true rfl (.wildcard ..)
    | literal text =>
      cases parts with
      | nil => exact iff_of_false (by simp [matchParts]) (by rintro ⟨⟩)
      | cons part parts =>
        by_cases same : text.toList = part
        · have here : text = String.ofList part := by rw [← same, String.ofList_toList]
          rw [matchParts, if_pos same, ih]
          constructor
          · intro rest
            rw [exactly, List.map_cons, ← here]
            exact .literal text rest
          · rintro (_ | _ | ⟨_, rest⟩)
            exact rest
        · refine iff_of_false (by simp [matchParts, same]) ?_
          intro covers
          cases covers with
          | literal => exact same (by simp)
    | param name =>
      cases parts with
      | nil => exact iff_of_false (by simp [matchParts]) (by rintro ⟨⟩)
      | cons part parts =>
        rw [matchParts, ih]
        constructor
        · intro rest
          exact .param name _ rest
        · intro covers
          cases covers with
          | param _ _ rest => exact rest

theorem match?_isSome_iff (template : Template) (path : String) :
    (template.match? path).isSome = true ↔ Covers template.segments (exactly (parts path)) :=
  isSome_matchParts_iff

/-! ## Outlines -/

/-- What the parts of paths of a template have to be, when there are `rest` at its wildcard. -/
def outline : List Segment → (rest : Nat) → Outline
  | [], _ => []
  | .literal text :: segments, rest => some text :: outline segments rest
  | .param _ :: segments, rest => none :: outline segments rest
  | .wildcard _ :: _, rest => List.replicate rest none

/-- The second outline asks for all that the first one asks for. -/
def Refines (slots slots' : Outline) : Prop :=
  List.Forall₂ (fun slot slot' => slot = none ∨ slot = slot') slots slots'

theorem Covers.of_refines (covers : Covers segments slots) (refines : Refines slots slots') :
    Covers segments slots' := by
  induction covers generalizing slots' with
  | nil =>
    cases refines
    exact .nil
  | wildcard name segments slots => exact .wildcard ..
  | literal text rest ih =>
    cases refines with
    | cons here later =>
      rcases here with none | rfl
      · cases none
      · exact .literal text (ih later)
  | param name slot rest ih =>
    cases refines with
    | cons here later => exact .param name _ (ih later)

theorem refines_replicate (slots : Outline) : Refines (List.replicate slots.length none) slots := by
  induction slots with
  | nil => exact .nil
  | cons slot slots ih => exact .cons (.inl rfl) ih

/-- What segments cover, one of their outlines leaves open at most. -/
theorem Covers.exists_outline (covers : Covers segments slots) : ∃ rest, Refines (outline segments rest) slots := by
  induction covers with
  | nil => exact ⟨0, .nil⟩
  | wildcard name segments slots => exact ⟨slots.length, refines_replicate slots⟩
  | literal text rest ih =>
    obtain ⟨more, refines⟩ := ih
    exact ⟨more, .cons (.inr rfl) refines⟩
  | param name slot rest ih =>
    obtain ⟨more, refines⟩ := ih
    exact ⟨more, .cons (.inl rfl) refines⟩

theorem covers_outline (segments : List Segment) (rest : Nat) : Covers segments (outline segments rest) := by
  induction segments with
  | nil => exact .nil
  | cons segment segments ih =>
    cases segment with
    | literal text => exact .literal text ih
    | param name => exact .param name none ih
    | wildcard name => exact .wildcard ..

/-! ## A path that stands for all of an outline -/

/-- The outline with one text in all places that it leaves open. -/
def filledWith (fresh : String) (slots : Outline) : List String := slots.map (·.getD fresh)

theorem refines_filledWith (fresh : String) (slots : Outline) : Refines slots ((filledWith fresh slots).map some) := by
  induction slots with
  | nil => exact .nil
  | cons slot slots ih =>
    refine .cons ?_ ih
    cases slot with
    | none => exact .inl rfl
    | some text => exact .inr rfl

/-- Segments that do not know a text cover an outline if they match it with this text in all open places. -/
theorem covers_of_covers_fresh {fresh : String} (unknown : Segment.literal fresh ∉ segments)
    (covers : Covers segments ((filledWith fresh slots).map some)) : Covers segments slots := by
  induction segments generalizing slots with
  | nil =>
    cases slots with
    | nil => exact .nil
    | cons slot slots => cases covers
  | cons segment segments ih =>
    have unknown' : Segment.literal fresh ∉ segments := fun member => unknown (List.mem_cons_of_mem _ member)
    cases segment with
    | wildcard name => exact .wildcard ..
    | param name =>
      cases slots with
      | nil => cases covers
      | cons slot slots =>
        cases covers with
        | param _ _ rest => exact .param name slot (ih unknown' rest)
    | literal text =>
      cases slots with
      | nil => cases covers
      | cons slot slots =>
        cases slot with
        | none =>
          cases covers with
          | literal => exact absurd List.mem_cons_self unknown
        | some word =>
          cases covers with
          | literal _ rest => exact .literal _ (ih unknown' rest)

/-- Some part occurs in none of a list of texts. -/
theorem exists_fresh (texts : List String) : ∃ fresh, fresh ∉ texts ∧ IsPart fresh.toList := by
  refine ⟨String.ofList (List.replicate ((texts.map String.length).sum + 1) 'x'), ?_, ?_⟩
  · intro member
    have short := List.le_sum_of_mem (List.mem_map_of_mem (f := String.length) member)
    rw [String.length_ofList, List.length_replicate] at short
    omega
  · rw [String.toList_ofList]
    constructor
    · simp
    · intro slash
      cases (List.mem_replicate.mp slash).2

/-! ## Templates without a wildcard -/

@[simp] theorem countP_literal (text : String) (segments : List Segment) :
    (Segment.literal text :: segments).countP Segment.isLiteral = segments.countP Segment.isLiteral + 1 :=
  List.countP_cons_of_pos rfl

@[simp] theorem countP_param (name : String) (segments : List Segment) :
    (Segment.param name :: segments).countP Segment.isLiteral = segments.countP Segment.isLiteral :=
  List.countP_cons_of_neg (by simp [Segment.isLiteral])

theorem outline_of_tame (tame : Tame segments) (rest : Nat) :
    outline segments rest = outline segments 0 := by
  induction segments with
  | nil => rfl
  | cons segment segments ih =>
    have later := ih tame.of_cons
    cases segment with
    | literal text => exact congrArg (some text :: ·) later
    | param name => exact congrArg (none :: ·) later
    | wildcard name => cases tame _ List.mem_cons_self

theorem covers_iff_of_tame (tame : Tame segments) :
    Covers segments slots ↔ Refines (outline segments 0) slots := by
  constructor
  · intro covers
    obtain ⟨rest, refines⟩ := covers.exists_outline
    rwa [outline_of_tame tame] at refines
  · exact (covers_outline segments 0).of_refines

theorem countP_outline_of_tame (tame : Tame segments) :
    (outline segments 0).countP Option.isSome = segments.countP Segment.isLiteral := by
  induction segments with
  | nil => rfl
  | cons segment segments ih =>
    have later := ih tame.of_cons
    cases segment with
    | literal text => simpa [outline] using later
    | param name => simpa [outline] using later
    | wildcard name => cases tame _ List.mem_cons_self

/-- Segments that cover an outline have no literal text that it has not. -/
theorem Covers.countP_le (covers : Covers segments slots) (last : WildcardLast segments) :
    segments.countP Segment.isLiteral ≤ slots.countP Option.isSome := by
  induction covers with
  | nil => exact Nat.le_refl _
  | wildcard name segments slots =>
    rw [last.of_wildcard]
    exact Nat.zero_le _
  | literal text rest ih => simpa using ih last.of_cons
  | param name slot rest ih =>
    rw [countP_param, List.countP_cons]
    exact (ih last.of_cons).trans (Nat.le_add_right ..)

/-- Segments that cover an outline with all literal texts that it has leave open what it leaves open. -/
theorem Covers.eq_outline (covers : Covers segments slots) (tame : Tame segments)
    (asMany : slots.countP Option.isSome ≤ segments.countP Segment.isLiteral) : slots = outline segments 0 := by
  induction covers with
  | nil => rfl
  | wildcard name segments slots => cases tame _ List.mem_cons_self
  | literal text rest ih =>
    exact congrArg (some text :: ·) (ih tame.of_cons (by simpa using asMany))
  | @param name slot segments slots rest ih =>
    have fewer := rest.countP_le tame.of_cons.wildcardLast
    rw [countP_param] at asMany
    cases slot with
    | none => exact congrArg (none :: ·) (ih tame.of_cons (by simpa using asMany))
    | some text =>
      -- The parameter has no text for this place, and the segments after it too few for the others.
      have more : slots.countP Option.isSome + 1 ≤ segments.countP Segment.isLiteral := by simpa using asMany
      omega

end Junction.Route.Template
