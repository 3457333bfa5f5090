import Junction.Message.Params
import Junction.Proofs.Data.Sorted
import Junction.Proofs.Text.Pieces
import Junction.Route.Template

/-!
Matching a template and filling it undo each other. What a path gives to the names of a template fills it to the parts
of that path again, if each name stands once and a wildcard only at the end (`flatMap_fill_of_matchParts`). Conversely
a template without a wildcard that is filled with a value for each name gives these values back
(`matchParts_fill`).
-/

namespace Junction

namespace Params

variable {params given : Params} {key value name : String}

theorem get?_set (params : Params) (key value name : String) :
    (params.set key value).get? name = if key = name then some value else params.get? name :=
  Sorted.get?_insert params.values key value name

theorem get?_empty (name : String) : (∅ : Params).get? name = none := rfl

theorem ext_get? {one other : Params} (same : ∀ name, one.get? name = other.get? name) : one = other := by
  obtain ⟨values⟩ := one
  obtain ⟨values'⟩ := other
  exact congrArg Params.mk (Sorted.ext_get? same)

end Params

namespace Route

/-! ## Parts -/

variable {part : List Char} {path template : String}

/-- A text can be a part of a path. -/
def IsPart (part : List Char) : Prop := part ≠ [] ∧ '/' ∉ part

theorem isPart_of_mem_parts (member : part ∈ parts path) : IsPart part := by
  obtain ⟨piece, filled⟩ := List.mem_filter.mp member
  exact ⟨by simpa using filled, Text.not_mem_of_mem_pieces piece⟩

theorem parts_ofList (isPart : IsPart part) : parts (String.ofList part) = [part] := by
  rw [parts, String.toList_ofList, Text.pieces_of_not_mem isPart.2]
  simp [isPart.1]

theorem parts_empty : parts "" = [] := by
  simp [parts, Text.pieces]

theorem parts_joined (texts : List (List Char)) :
    parts (String.ofList (Text.joined '/' texts)) = texts.flatMap fun text => parts (String.ofList text) := by
  by_cases some? : texts = []
  · rw [some?]
    exact parts_empty
  · simp only [parts, String.toList_ofList, Text.pieces_joined some?, List.filter_flatMap]

theorem parts_joined_parts {texts : List (List Char)} (all : ∀ text ∈ texts, IsPart text) :
    parts (String.ofList (Text.joined '/' texts)) = texts := by
  rw [parts_joined]
  induction texts with
  | nil => rfl
  | cons text texts ih =>
    rw [List.flatMap_cons, parts_ofList (all text List.mem_cons_self),
      ih fun other member => all other (List.mem_cons_of_mem _ member)]
    rfl

/-! ## Segments -/

theorem Segment.eq_of_literal {text : String} (literal : Segment.ofText part = .literal text) :
    text = String.ofList part := by
  unfold ofText at literal
  split at literal
  · cases literal
  · cases literal
  · split at literal
    · cases literal
    · exact (Segment.literal.inj literal).symm

theorem fillSegment_literal (params : Params) {text : String} (literal : Segment.ofText part = .literal text) :
    params.fillSegment part = part := by
  simp [Params.fillSegment, literal, Segment.name?]

theorem fillSegment_of_name {params : Params} {name value : String} (named : (Segment.ofText part).name? = some name)
    (found : params.get? name = some value) : params.fillSegment part = value.toList := by
  simp [Params.fillSegment, named, found]

/-- Empty pieces of a template add nothing to what it is filled to. -/
theorem parts_fill (params : Params) (template : String) : parts (params.fill template) =
    (parts template).flatMap fun text => parts (String.ofList (params.fillSegment text)) := by
  rw [Params.fill, parts_joined, parts]
  induction Text.pieces '/' template.toList with
  | nil => rfl
  | cons piece pieces ih =>
    cases piece with
    | nil =>
      have empty : params.fillSegment [] = [] := fillSegment_literal params rfl
      simpa [empty, parts_empty] using ih
    | cons c rest => simpa using ih

namespace Template

variable {segments : List Segment} {before params given : Params} {texts path : List (List Char)}

/-- The names that parameters and wildcards put their values under. -/
def namesOf (segments : List Segment) : List String := segments.filterMap Segment.name?

@[simp] theorem namesOf_literal (text : String) (segments : List Segment) :
    namesOf (.literal text :: segments) = namesOf segments := rfl

@[simp] theorem namesOf_param (name : String) (segments : List Segment) :
    namesOf (.param name :: segments) = name :: namesOf segments := rfl

@[simp] theorem namesOf_wildcard (name : String) (segments : List Segment) :
    namesOf (.wildcard name :: segments) = name :: namesOf segments := rfl

/-- No segment is a wildcard. -/
def Tame (segments : List Segment) : Prop := ∀ segment ∈ segments, segment.isWildcard = false

/-- No segment follows a wildcard. -/
def WildcardLast (segments : List Segment) : Prop := ∀ segment ∈ segments.dropLast, segment.isWildcard = false

/-- The wildcard, if there is one, is last and has a name. -/
def Trailing (segments : List Segment) : Prop := WildcardLast segments ∧ segments.getLast? ≠ some (.wildcard "")

instance (segments : List Segment) : Decidable (WildcardLast segments) :=
  inferInstanceAs (Decidable (∀ segment ∈ segments.dropLast, segment.isWildcard = false))

instance (segments : List Segment) : Decidable (Trailing segments) :=
  inferInstanceAs (Decidable (WildcardLast segments ∧ segments.getLast? ≠ some (.wildcard "")))

theorem tame_iff (template : Template) : Tame template.segments ↔ template.hasWildcard = false := by
  simp [Tame, hasWildcard]

theorem Tame.of_cons {segment : Segment} (tame : Tame (segment :: segments)) : Tame segments :=
  fun other member => tame other (List.mem_cons_of_mem _ member)

theorem Tame.wildcardLast (tame : Tame segments) : WildcardLast segments :=
  fun segment member => tame segment (List.dropLast_subset _ member)

theorem WildcardLast.of_cons {segment : Segment} (last : WildcardLast (segment :: segments)) :
    WildcardLast segments := by
  cases segments with
  | nil => decide
  | cons next rest => exact fun other member => last other (List.mem_cons_of_mem _ member)

theorem WildcardLast.of_wildcard {name : String} (last : WildcardLast (.wildcard name :: segments)) :
    segments = [] := by
  cases segments with
  | nil => rfl
  | cons next rest => cases last (.wildcard name) List.mem_cons_self

theorem Trailing.of_cons {segment : Segment} (trailing : Trailing (segment :: segments)) : Trailing segments := by
  refine ⟨trailing.1.of_cons, ?_⟩
  intro unnamed
  cases segments with
  | nil => cases unnamed
  | cons next rest => exact trailing.2 (by rw [List.getLast?_cons_cons, unnamed])

theorem Trailing.of_wildcard {name : String} (trailing : Trailing (.wildcard name :: segments)) :
    segments = [] ∧ name ≠ "" := by
  have none := trailing.1.of_wildcard
  subst none
  refine ⟨rfl, ?_⟩
  rintro rfl
  exact trailing.2 rfl

/-! ## Matching, then filling -/

/-- Names that no segment has keep their values. -/
theorem get?_of_matchParts {name : String} (taken : matchParts segments path before = some params)
    (other : name ∉ namesOf segments) : params.get? name = before.get? name := by
  induction segments generalizing path before with
  | nil =>
    cases path with
    | nil =>
      cases taken
      rfl
    | cons part path => cases taken
  | cons segment segments ih =>
    cases segment with
    | wildcard wild =>
      have different : wild ≠ name := by
        rintro rfl
        exact other (by simp)
      simp only [matchParts, Option.some.injEq] at taken
      subst taken
      split
      · rfl
      · rw [Params.get?_set, if_neg different]
    | literal text =>
      cases path with
      | nil => cases taken
      | cons part path =>
        simp only [matchParts] at taken
        split at taken
        · exact ih taken other
        · cases taken
    | param taker =>
      cases path with
      | nil => cases taken
      | cons part path =>
        simp only [namesOf_param, List.mem_cons, not_or] at other
        rw [ih taken other.2, Params.get?_set, if_neg (Ne.symm other.1)]

/-- What a path gives to the names of a template fills the template to the parts of the path. -/
theorem flatMap_fill_of_matchParts (taken : matchParts (texts.map Segment.ofText) path before = some params)
    (distinct : (namesOf (texts.map Segment.ofText)).Nodup) (trailing : Trailing (texts.map Segment.ofText))
    (partsOfPath : ∀ part ∈ path, IsPart part) :
    (texts.flatMap fun text => parts (String.ofList (params.fillSegment text))) = path := by
  induction texts generalizing path before with
  | nil =>
    cases path with
    | nil => rfl
    | cons part path => cases taken
  | cons text texts ih =>
    cases segment : Segment.ofText text with
    | wildcard name =>
      rw [List.map_cons, segment] at taken trailing
      obtain ⟨none, named⟩ := trailing.of_wildcard
      have last : texts = [] := by simpa using none
      have value : params.get? name = some (String.ofList (Text.joined '/' path)) := by
        simp only [matchParts, Option.some.injEq] at taken
        rw [← taken, if_neg (by simpa using named), Params.get?_set, if_pos rfl]
      rw [last, List.flatMap_singleton, fillSegment_of_name (by rw [segment]; rfl) value, String.ofList_toList,
        parts_joined_parts partsOfPath]
    | literal word =>
      rw [List.map_cons, segment] at taken distinct trailing
      cases path with
      | nil => cases taken
      | cons part path =>
        simp only [matchParts] at taken
        split at taken
        · rename_i same
          have here : text = part := by rw [← same, Segment.eq_of_literal segment, String.toList_ofList]
          rw [List.flatMap_cons, fillSegment_literal params segment, here,
            parts_ofList (partsOfPath part List.mem_cons_self),
            ih taken distinct trailing.of_cons fun other member => partsOfPath other (List.mem_cons_of_mem _ member)]
          rfl
        · cases taken
    | param name =>
      rw [List.map_cons, segment] at taken distinct trailing
      cases path with
      | nil => cases taken
      | cons part path =>
        -- A later segment of this name would have replaced the value.
        obtain ⟨later, rest⟩ : name ∉ namesOf (texts.map Segment.ofText) ∧
            (namesOf (texts.map Segment.ofText)).Nodup := List.nodup_cons.mp distinct
        have value : params.get? name = some (String.ofList part) := by
          simp only [matchParts] at taken
          rw [get?_of_matchParts taken later, Params.get?_set, if_pos rfl]
        rw [List.flatMap_cons, fillSegment_of_name (by rw [segment]; rfl) value, String.ofList_toList,
          parts_ofList (partsOfPath part List.mem_cons_self),
          ih taken rest trailing.of_cons fun other member => partsOfPath other (List.mem_cons_of_mem _ member)]
        rfl

/-! ## Filling, then matching -/

/-- A segment that is no wildcard is filled to one part, if names have values that can be parts. -/
theorem isPart_fillSegment {text : List Char} (isPart : IsPart text)
    (values : ∀ name value, given.get? name = some value → IsPart value.toList) :
    IsPart (given.fillSegment text) := by
  unfold Params.fillSegment
  split
  · rename_i value found
    obtain ⟨name, _, here⟩ := Option.bind_eq_some_iff.mp found
    exact values name value here
  · exact isPart

theorem matchParts_fill (tame : Tame (texts.map Segment.ofText))
    (named : ∀ name ∈ namesOf (texts.map Segment.ofText), given.contains name = true) (before : Params) :
    ∃ params, matchParts (texts.map Segment.ofText) (texts.map given.fillSegment) before = some params ∧
      ∀ name, params.get? name =
        if name ∈ namesOf (texts.map Segment.ofText) then given.get? name else before.get? name := by
  induction texts generalizing before with
  | nil => exact ⟨before, rfl, fun name => by simp [namesOf]⟩
  | cons text texts ih =>
    cases segment : Segment.ofText text with
    | wildcard name =>
      have here := tame _ List.mem_cons_self
      rw [segment] at here
      cases here
    | literal word =>
      simp only [List.map_cons, segment, namesOf_literal] at named ⊢
      obtain ⟨params, taken, found⟩ := ih tame.of_cons named before
      refine ⟨params, ?_, found⟩
      have same : word.toList = text := by rw [Segment.eq_of_literal segment, String.toList_ofList]
      rw [fillSegment_literal given segment, matchParts, if_pos same]
      exact taken
    | param name =>
      simp only [List.map_cons, segment, namesOf_param] at named ⊢
      obtain ⟨value, here⟩ : ∃ value, given.get? name = some value :=
        Option.isSome_iff_exists.mp (named name List.mem_cons_self)
      obtain ⟨params, taken, found⟩ := ih tame.of_cons
        (fun other member => named other (List.mem_cons_of_mem _ member)) (before.set name value)
      refine ⟨params, ?_, ?_⟩
      · rw [fillSegment_of_name (by rw [segment]; rfl) here, matchParts, String.ofList_toList]
        exact taken
      · intro other
        rw [found other, Params.get?_set]
        by_cases same : name = other
        · subst same
          simp [here]
        · simp [same, Ne.symm same]

/-- Values for exactly the names of a template, each of which can be a part of a path. -/
structure Assigns (template : Template) (given : Params) : Prop where
  names : ∀ name, given.contains name = true ↔ name ∈ namesOf template.segments
  values : ∀ name value, given.get? name = some value → IsPart value.toList

/-- Matching a template and filling it undo each other: what is taken from a path gives the parts of that path, and
values that are filled in are found again. -/
structure Inverse (template : String) : Prop where
  filled : ∀ path params, (ofText template).match? path = some params → parts (params.fill template) = parts path
  matched : (ofText template).hasWildcard = false → ∀ given, (ofText template).Assigns given →
    (ofText template).match? (given.fill template) = some given

theorem inverse_of_distinct (template : String) (distinct : (namesOf (ofText template).segments).Nodup)
    (trailing : Trailing (ofText template).segments) : Inverse template := by
  constructor
  · intro path params taken
    rw [parts_fill]
    exact flatMap_fill_of_matchParts taken distinct trailing fun part => isPart_of_mem_parts
  · intro tame given assigns
    have filled : parts (given.fill template) = (parts template).map given.fillSegment := by
      rw [parts_fill, ← List.flatMap_singleton' ((parts template).map given.fillSegment), List.flatMap_map]
      exact List.flatMap_congr fun text member =>
        parts_ofList (isPart_fillSegment (isPart_of_mem_parts member) assigns.values)
    obtain ⟨params, taken, found⟩ :=
      matchParts_fill ((tame_iff _).mpr tame) (fun name member => (assigns.names name).mpr member) ∅
    have same : params = given := by
      apply Params.ext_get?
      intro name
      rw [found name]
      split
      · rfl
      · rename_i other
        have absent := mt (assigns.names name).mp other
        rw [Params.get?_empty]
        exact (Option.not_isSome_iff_eq_none.mp absent).symm
    rw [match?, filled]
    exact same ▸ taken

theorem inverse_of_distinct_files : (namesOf (ofText "/:user//\x7bid\x7d/files/*rest").segments).Nodup ∧
    Trailing (ofText "/:user//\x7bid\x7d/files/*rest").segments ∧ Inverse "/:user//\x7bid\x7d/files/*rest" := by
  have distinct : (namesOf (ofText "/:user//\x7bid\x7d/files/*rest").segments).Nodup := by decide +kernel
  have trailing : Trailing (ofText "/:user//\x7bid\x7d/files/*rest").segments := by decide +kernel
  exact ⟨distinct, trailing, inverse_of_distinct _ distinct trailing⟩

-- A wildcard may take no part at all; its text then ends in a slash that no part follows.
example : ((ofText "/files/*rest").match? "files").map (·.fill "/files/*rest") = some "/files/" := by decide +kernel

end Template
end Route
end Junction
