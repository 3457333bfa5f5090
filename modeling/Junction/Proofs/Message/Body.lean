import Junction.Message.Body
import Junction.Proofs.Data.Outcome
import Junction.Proofs.Text.Trim

/-!
Bodies that are made again of their text: the media type is the same, the bytes are if they are UTF-8. A body
is only ever made in one of two ways, which every change of a body keeps to (`Made`).
-/

namespace Junction

namespace Text

variable {s back : List Char}

theorem isBlank_trim (s : String) : isBlank (trim s) = isBlank s := by
  obtain ⟨front, back, before, after, split⟩ := exists_eq_trimmed s.toList
  have white : ∀ {part : List Char}, White part → part.all isWhite = true := List.all_eq_true.mpr
  rw [isBlank, isBlank, split, List.all_append, List.all_append, white before, white after]
  simp [trim]

theorem trim_trim (s : String) : trim (trim s) = trim s := by
  simp [trim, trimmed_trimmed]

/-- A text is in UTF-8 what it was read from, if that is UTF-8. -/
theorem toUTF8_ofBytes_iff (bytes : ByteArray) : (ofBytes bytes).toUTF8 = bytes ↔ bytes.IsValidUTF8 := by
  constructor
  · intro same
    rw [← same, String.toUTF8_eq_toByteArray]
    exact String.isValidUTF8 _
  · intro valid
    simp only [ofBytes, String.fromUTF8?, valid, dif_pos]
    rfl

end Text

namespace Format
open Text

theorem ofName?_name (format : Format) : ofName? format.name = some format := by
  cases format <;> decide

theorem takeWhile_append_white {s back : List Char} (after : White back) :
    ∃ rest, White rest ∧ (s ++ back).takeWhile (· != ';') = s.takeWhile (· != ';') ++ rest := by
  induction s with
  | nil =>
    refine ⟨back.takeWhile (· != ';'), ?_, rfl⟩
    intro c member
    exact after c ((List.takeWhile_sublist _).mem member)
  | cons c s ih =>
    obtain ⟨rest, white, same⟩ := ih
    by_cases mark : c = ';'
    · exact ⟨[], nofun, by simp [mark]⟩
    · exact ⟨rest, white, by simp [mark, same]⟩

theorem takeWhile_white_append {front s : List Char} (before : White front) :
    (front ++ s).takeWhile (· != ';') = front ++ s.takeWhile (· != ';') := by
  apply List.takeWhile_append_of_pos
  intro c member
  have white := before c member
  have mark : c ≠ ';' := by
    rintro rfl
    exact absurd white (by decide)
  simpa using mark

/-- Space around a media type changes nothing about its format. -/
theorem ofMediaType_trim (mediaType : String) : ofMediaType (trim mediaType) = ofMediaType mediaType := by
  have same : essence (trim mediaType) = essence mediaType := by
    obtain ⟨front, back, before, after, split⟩ := exists_eq_trimmed mediaType.toList
    obtain ⟨rest, white, cut⟩ := takeWhile_append_white (s := trimmed mediaType.toList) after
    have whole : mediaType.toList.takeWhile (· != ';') =
        front ++ (trimmed mediaType.toList).takeWhile (· != ';') ++ rest := by
      conv => lhs; rw [split, List.append_assoc, takeWhile_white_append before, cut, ← List.append_assoc]
    rw [essence, essence, whole, trimmed_append_white before white, trim, String.toList_ofList]
  simp only [ofMediaType, same]

end Format

namespace Body
open Outcome

variable {body made : Body}

/-! ## Media types of text bodies -/

/-- A media type that a text body can have: it announces no other format, and has no space around it. -/
structure IsPlain (mediaType : String) : Prop where
  text : Format.ofMediaType mediaType = .text
  shown : Text.isBlank mediaType = false
  tight : Text.trim mediaType = mediaType

theorem isPlain_default : IsPlain Format.text.mediaType := by
  constructor <;> decide +kernel

theorem isPlain_trim {mediaType : String} (text : Format.ofMediaType mediaType = .text)
    (shown : Text.isBlank mediaType = false) : IsPlain (Text.trim mediaType) := by
  refine ⟨?_, ?_, Text.trim_trim mediaType⟩
  · rw [Format.ofMediaType_trim, text]
  · rw [Text.isBlank_trim, shown]

theorem ofMediaType_of_isPlain {mediaType : String} (plain : IsPlain mediaType) (bytes : ByteArray) :
    ofMediaType mediaType bytes = ⟨.text, bytes, some mediaType⟩ := by
  simp [ofMediaType, plain.text, plain.shown, plain.tight]

/-! ## Bodies are made in two ways -/

/-- A body that was made of a format or of a media type. -/
inductive Made : Body → Prop
  | ofBytes (format : Format) (bytes : ByteArray) : Made (.ofBytes format bytes)
  | ofMediaType (mediaType : String) (bytes : ByteArray) : Made (.ofMediaType mediaType bytes)

theorem made_withText (known : body.Made) (text : String) : (body.withText text).Made := by
  cases known with
  | ofBytes format bytes => exact .ofBytes format text.toUTF8
  | ofMediaType mediaType bytes => exact .ofMediaType mediaType text.toUTF8

theorem made_reshape (known : body.Made) {change : Json → Json} (ok : body.reshape change = .ok made) :
    made.Made := by
  simp only [reshape] at ok
  split at ok
  · cases ok
    exact known
  · obtain ⟨value, decoded, rfl⟩ := map_eq_ok.mp ok
    exact made_withText known _

theorem made_modifyTree (known : body.Made) {action : Action} {key argument : String}
    (ok : body.modifyTree action key argument = .ok made) : made.Made := by
  obtain ⟨value, decoded, changed⟩ := bind_eq_ok.mp ok
  split at changed
  · cases changed
    exact made_withText known _
  · cases changed

theorem made_modify (known : body.Made) {action : Action} {key argument : String}
    (ok : body.modify action key argument = .ok made) : made.Made := by
  have marked : body.modifyMarked action key argument = .ok made → made.Made := by
    intro ok
    cases action with
    | replace =>
      cases ok
      split
      · exact known
      · exact made_withText known _
    | delete =>
      cases ok
      exact known
    | add => exact made_modifyTree known ok
    | append => exact made_modifyTree known ok
    | set => exact made_modifyTree known ok
  simp only [modify] at ok
  split at ok
  · cases ok
    exact made_withText known _
  · exact made_modifyTree known ok
  · exact marked ok
  · exact marked ok

theorem made_modify? {given made : Option Body} (known : ∀ body ∈ given, body.Made) {action : Action}
    {key argument : String} (ok : modify? given action key argument = .ok made) : ∀ body ∈ made, body.Made := by
  have changed : ∀ {body : Body}, body.Made → (body.modify action key argument).map some = .ok made →
      ∀ body ∈ made, body.Made := by
    intro body known ok
    obtain ⟨next, result, rfl⟩ := map_eq_ok.mp ok
    intro body member
    cases Option.some.inj member
    exact made_modify known result
  have started : (if key.isEmpty then .ok (some (ofText argument))
      else ((ofJson (.object [])).modify action key argument).map some) = .ok made → ∀ body ∈ made, body.Made := by
    intro ok
    split at ok
    · cases ok
      intro body member
      cases Option.some.inj member
      exact .ofBytes .text argument.toUTF8
    · exact changed (.ofBytes .json _) ok
  cases given with
  | some body => exact changed (known body rfl) ok
  | none =>
    cases action with
    | add => exact started ok
    | set => exact started ok
    | append | replace | delete =>
      cases ok
      nofun

theorem made_convert (known : body.Made) {format : Format} (ok : body.convert format = .ok made) : made.Made := by
  simp only [convert] at ok
  split at ok
  · cases ok
    exact known
  · obtain ⟨value, decoded, rfl⟩ := map_eq_ok.mp ok
    exact .ofBytes format _

/-- The media type of a text body is one that a text body can have. -/
theorem isPlain_mediaType (known : body.Made) (text : body.format = .text) : IsPlain body.mediaType := by
  cases known with
  | ofBytes format bytes =>
    have same : format = .text := text
    subst same
    exact isPlain_default
  | ofMediaType mediaType bytes =>
    have announced : Format.ofMediaType mediaType = .text := text
    cases blank : Text.isBlank mediaType with
    | true =>
      have default : (Body.ofMediaType mediaType bytes).mediaType = Format.text.mediaType := by
        simp [Body.ofMediaType, Body.mediaType, announced, blank]
      rw [default]
      exact isPlain_default
    | false =>
      have trimmed : (Body.ofMediaType mediaType bytes).mediaType = Text.trim mediaType := by
        simp [Body.ofMediaType, Body.mediaType, announced, blank]
      rw [trimmed]
      exact isPlain_trim announced blank

theorem mediaType_of_format (known : body.Made) (other : body.format ≠ .text) :
    body.mediaType = body.format.mediaType := by
  cases known with
  | ofBytes format bytes => rfl
  | ofMediaType mediaType bytes =>
    have announced : Format.ofMediaType mediaType ≠ .text := other
    simp [Body.ofMediaType, Body.mediaType, announced]

/-! ## JSON bodies -/

theorem value_ofJson {value : Json} (dark : isBlank value.render.toUTF8 = false)
    (read : Json.read? value.render = some value) : (ofJson value).value = value := by
  have valid : String.fromUTF8? value.render.toUTF8 = some value.render := dif_pos (String.isValidUTF8 _)
  have decoded : (ofJson value).decode = .ok value := by
    rw [decode, ofJson, ofBytes, decodeAs, dark, if_neg Bool.false_ne_true, decodeJson?, valid, Option.bind_some, read]
    rfl
  rw [Body.value, decoded]

end Body
end Junction
