import Junction.Change.Document
import Junction.Proofs.Json.Removal
import Junction.Proofs.Text.Trim

/-!
The five actions on a value at a path: when they leave it as it is, when they can fail, and what stands at the path
after them (`modify_acts`). All of them are writes and removals, so nothing beside the path is touched.
-/

namespace Junction.Change
open Json (Path Stuck Obstructed Writes Removes)

variable {value old argument : Json} {path : Path}

theorem isPresent_iff (item : Json) : isPresent item = true ↔ item ≠ .null ∧ item ≠ .text "" := by
  cases item with
  | text value =>
    constructor
    · intro present
      refine ⟨nofun, ?_⟩
      rintro ⟨⟩
      cases present
    · rintro ⟨_, filled⟩
      cases empty : value.isEmpty with
      | false => rw [isPresent, empty]; rfl
      | true => exact absurd (congrArg Json.text (String.isEmpty_iff.mp empty)) filled
  | null | bool | number | array | object => simp [isPresent]

theorem existing?_eq_some (found : value.get? path = some old) (filled : old ≠ .null) : existing? value path = some old := by
  have kept : (!old.isNull) = true := by cases old <;> first | rfl | exact absurd rfl filled
  rw [existing?, found, Option.filter_some, if_pos kept]

theorem existing?_eq_none (absent : ∀ old, value.get? path = some old → old = .null) : existing? value path = none := by
  rw [existing?, Option.filter_eq_none_iff]
  intro old found
  rw [absent old found]
  decide

theorem ofText_of_isBlank {key : String} (blank : Text.isBlank key = true) : Path.ofText key = [] := by
  have white : Text.White key.toList := Text.isBlank_iff.mp blank
  have nothing : Text.trimmed key.toList = [] := by
    rw [← List.append_nil key.toList, ← List.append_nil key.toList, Text.trimmed_append_white white (by nofun)]
    rfl
  rw [Path.ofText, nothing]
  rfl

/-- The result of putting a value at a path: nothing else is touched, or something is in the way. -/
def Puts (path : Path) (new before : Json) (result : Except Stuck Json) : Prop :=
  (Obstructed path before ∧ ∃ stuck, result = .error stuck) ∨ ∃ after, result = .ok after ∧ Writes path new before after

/-- What the actions give at a path with an argument. -/
structure Acts (path : Path) (argument before : Json) (act : Action → Except Stuck Json) : Prop where
  sets : Puts path argument before (act .set)
  adds : (∀ old, before.get? path = some old → old = .null) → Puts path argument before (act .add)
  leaves : (∀ old, before.get? path = some old → old = .null) → act .append = .ok before ∧ act .replace = .ok before
  joins : ∀ old, before.get? path = some old → old ≠ .null → ∀ action, action = .add ∨ action = .append →
    ∃ after, act action = .ok after ∧
      Writes path (.array (old.itemsOf.filter isPresent ++ argument.itemsOf.filter isPresent)) before after
  replaces : ∀ old, before.get? path = some old → old ≠ .null →
    ∃ after, act .replace = .ok after ∧ Writes path argument before after
  removes : (before.get? path = none ∧ act .delete = .ok before) ∨
    ∃ after, act .delete = .ok after ∧ Removes path before after

theorem acts_modifyAt (nonempty : path ≠ []) (value argument : Json) :
    Acts path argument value fun action => modifyAt value action path argument where
  sets := Json.set_cases nonempty value argument
  adds := by
    intro absent
    simp only [modifyAt, existing?_eq_none absent]
    exact Json.set_cases nonempty value argument
  leaves := by
    intro absent
    simp only [modifyAt, existing?_eq_none absent, and_self]
  joins := by
    intro old found filled action either
    have written := Json.set_of_get? nonempty found (extended old argument)
    have joined : modifyAt value action path argument = value.set path (extended old argument) := by
      rcases either with rfl | rfl <;> simp only [modifyAt, existing?_eq_some found filled]
    rw [joined]
    rwa [extended, List.filter_append] at written ⊢
  replaces := by
    intro old found filled
    simpa only [modifyAt, existing?_eq_some found filled] using Json.set_of_get? nonempty found argument
  removes := by
    rw [modifyAt]
    cases removed : Json.delete? path value with
    | none =>
      have absent : (value.get? path).isSome = false := by rw [← Json.delete?_isSome nonempty, removed]; rfl
      exact .inl ⟨Option.not_isSome_iff_eq_none.mp (by rw [absent]; exact Bool.false_ne_true), rfl⟩
    | some after => exact .inr ⟨after, rfl, Json.removes_of_delete? removed⟩

/-- With a blank key nothing happens. With a key of at least one segment, setting puts the argument at the path unless
something is in the way, and so does adding where there is nothing but null; appending and replacing then change nothing.
Where there is another value, replacing puts the argument there, adding and appending put there the items of both that
are neither null nor empty text, and none of them fails. Deleting removes what is at the path, if anything is. -/
theorem modify_acts (value argument : Json) (key : String) :
    (Text.isBlank key = true → ∀ action, modify value action key argument = .ok value) ∧
    (Path.ofText key ≠ [] → Acts (Path.ofText key) argument value fun action => modify value action key argument) ∧
    ∀ item, isPresent item = true ↔ item ≠ .null ∧ item ≠ .text "" := by
  refine ⟨fun blank action => if_pos blank, fun nonempty => ?_, isPresent_iff⟩
  have filled : ¬ Text.isBlank key = true := fun blank => nonempty (ofText_of_isBlank blank)
  have same : (fun action => modify value action key argument) =
      fun action => modifyAt value action (Path.ofText key) argument := funext fun action => if_neg filled
  rw [same]
  exact acts_modifyAt nonempty value argument

/-- A cart: a list of codes in which one is empty, and a note that is null. -/
def cart : Json := .object [("codes", .array [.text "a", .text ""]), ("note", .null)]

/-- A code is appended to the cart, and the empty one goes; nothing is appended to the note. -/
theorem modify_acts_cart :
    modify cart .append "codes" (.text "b") = .ok (.object [("codes", .array [.text "a", .text "b"]), ("note", .null)]) ∧
    Writes (Path.ofText "codes") (.array [.text "a", .text "b"]) cart
      (.object [("codes", .array [.text "a", .text "b"]), ("note", .null)]) ∧
    modify cart .append "note" (.text "b") = .ok cart := by
  obtain ⟨_, acts, _⟩ := modify_acts cart (.text "b") "codes"
  obtain ⟨_, idle, _⟩ := modify_acts cart (.text "b") "note"
  obtain ⟨after, appended, writes⟩ := (acts (by decide)).joins _ rfl nofun .append (.inr rfl)
  have same : Except.ok after = modify cart .append "codes" (.text "b") := appended.symm
  cases same
  refine ⟨rfl, writes, ((idle (by decide)).leaves ?_).1⟩
  rintro old ⟨⟩
  rfl

end Junction.Change
