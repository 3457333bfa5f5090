import Junction.Cache.Stored
import Junction.Proofs.Config.Setting
import Junction.Proofs.Data.Multimap
import Junction.Proofs.Json.Written
import Junction.Proofs.Message.Body
import Junction.Proofs.Message.HeaderName

/-!
What comes back of a response that was kept: its stored form is read as it was written (`decode?_encode`), and
the response made of that is the same exactly when its header names are spelled as they will be and its body
is UTF-8 (`roundTrips_iff`).
-/

namespace Junction.Cache.Stored
open Config (Setting Reader)
open Config.Reader (Restores)
open Json.Written (OnlyWords OnlyWordItems)

variable {stored : Stored} {response : Response} {remainingMs : Nat} {name : String}

/-! ## The stored form -/

/-- The JSON value of a name and its values. -/
def fieldJson (field : String × List String) : Json := .array [.text field.1, .array (field.2.map .text)]

theorem onlyWords_textOrNull (found : Option String) : OnlyWords (Json.textOrNull found) := by
  cases found <;> trivial

theorem onlyWords_texts (values : List String) : OnlyWordItems (values.map .text) := by
  apply Json.Written.onlyWordItems_map
  intro value _
  trivial

theorem onlyWords_toJson (small : stored.status ≤ 65535) : OnlyWords stored.toJson := by
  have status : OnlyWords (Json.ofNat stored.status) := by
    have bounds : -Text.signedLimit ≤ (stored.status : Int) ∧ (stored.status : Int) ≤ Text.wordLimit := by
      simp only [Text.signedLimit, Text.wordLimit]
      omega
    exact bounds
  have header : OnlyWordItems (stored.header.map fieldJson) := by
    apply Json.Written.onlyWordItems_map
    intro field _
    exact ⟨trivial, onlyWords_texts field.2, trivial⟩
  exact ⟨status, header, onlyWords_textOrNull _, onlyWords_textOrNull _, onlyWords_textOrNull _, trivial⟩

theorem field_restores (named : String × List String) : Restores field fieldJson named := by
  obtain ⟨name, values⟩ := named
  have texts : Reader.list Reader.text (Setting.ofJson (.array (values.map .text))) = .ok values :=
    Reader.list_restores fun value _ => Reader.text_restores value
  have items : (Setting.ofJson (fieldJson (name, values))).items? =
      some [Setting.ofJson (.text name), Setting.ofJson (.array (values.map .text))] := rfl
  have first : Reader.text (Setting.ofJson (.text name)) = .ok name := rfl
  simp only [Restores, field, items, first, Except.bind, texts, Except.map]

/-- The five fields read back what they were written from. -/
theorem record_toJson (small : stored.status ≤ 65535) :
    Reader.record fields {} (Setting.ofJson stored.toJson) =
      .ok ⟨some stored.status, some stored.header, stored.format, stored.mediaType, stored.text⟩ := by
  have status := Reader.status_restores small
  have header : Restores (Reader.list field) (fun header => .array (header.map fieldJson)) stored.header :=
    Reader.list_restores fun named _ => field_restores named
  have format : Restores (Reader.optional (Reader.variant Format.ofName?))
      (fun format => Json.textOrNull (format.map Format.name)) stored.format :=
    Reader.optional_restores fun format _ => Reader.variant_restores (Format.ofName?_name format)
  have text : ∀ found : Option String, Restores (Reader.optional Reader.text) Json.textOrNull found := by
    intro found
    have restored : Restores (Reader.optional Reader.text) (fun found => Json.textOrNull (found.map id)) found :=
      Reader.optional_restores fun value _ => Reader.text_restores value
    simpa only [Restores, Option.map_id_fun, id_eq] using restored
  have given : (Setting.ofJson stored.toJson).fields? =
      some [(some "status_code", Setting.ofJson (Json.ofNat stored.status)),
        (some "header", Setting.ofJson (.array (stored.header.map fieldJson))),
        (some "content_type", Setting.ofJson (Json.textOrNull (stored.format.map Format.name))),
        (some "mime", Setting.ofJson (Json.textOrNull stored.mediaType)),
        (some "body", Setting.ofJson (Json.textOrNull stored.text))] := rfl
  simp only [Reader.record, given]
  rw [Reader.putFields_cons rfl rfl status, Reader.putFields_cons rfl rfl header,
    Reader.putFields_cons rfl rfl format, Reader.putFields_cons rfl rfl (text stored.mediaType),
    Reader.putFields_cons rfl rfl (text stored.text)]
  rfl

/-- A stored form is read as it was written. -/
theorem decode?_encode (small : stored.status ≤ 65535) : decode? stored.encode = some stored := by
  have read : Setting.ofText? .json stored.encode = some (Setting.ofJson stored.toJson) := by
    simp only [Setting.ofText?, encode, Json.render, String.toList_ofList]
    rw [Json.Written.ofText?_write stored.toJson (onlyWords_toJson small)]
    rfl
  have whole : isWhole (Setting.ofJson stored.toJson) = true := rfl
  simp only [decode?, read, Option.filter_some, whole, if_true, record_toJson small]

/-! ## Bodies -/

/-- What a client sees of a body. -/
def seen (body : Body) : Format × String × ByteArray := (body.format, body.mediaType, body.bytes)

/-- The body that is made of what is kept of one. -/
def again (body : Body) : Body :=
  if body.format = .text then .ofMediaType body.mediaType body.text.toUTF8
  else .ofBytes body.format body.text.toUTF8

theorem body?_ofResponse (response : Response) : (ofResponse response).body? = response.body.map again := by
  cases given : response.body with
  | none => simp [ofResponse, body?, given]
  | some body =>
    cases format : body.format with
    | text => simp [ofResponse, body?, given, again, format]
    | json => simp [ofResponse, body?, given, again, format]
    | xml => simp [ofResponse, body?, given, again, format]
    | yaml => simp [ofResponse, body?, given, again, format]

theorem seen_again {body : Body} (made : body.Made) :
    seen (again body) = (body.format, body.mediaType, body.text.toUTF8) := by
  by_cases text : body.format = .text
  · have plain := Body.isPlain_mediaType made text
    rw [again, if_pos text, Body.ofMediaType_of_isPlain plain, text]
    rfl
  · rw [again, if_neg text, Body.mediaType_of_format made text]
    rfl

/-- Only the bytes of a body can be lost, and they are unless they are UTF-8. -/
theorem seen_again_iff {body : Body} (made : body.Made) :
    seen (again body) = seen body ↔ body.bytes.IsValidUTF8 := by
  rw [seen_again made, ← Text.toUTF8_ofBytes_iff]
  simp [seen, Body.text]

theorem map_seen_again_iff (made : ∀ body ∈ response.body, body.Made) :
    ((ofResponse response).body?).map seen = response.body.map seen ↔
      ∀ body ∈ response.body, body.bytes.IsValidUTF8 := by
  rw [body?_ofResponse]
  cases given : response.body with
  | none => simp
  | some body => simpa using seen_again_iff (made body given)

/-! ## Headers -/

theorem headerName_cached : headerName Header.cached = Header.cached := by decide +kernel

theorem headerName_cachedFor : headerName Header.cachedFor = Header.cachedFor := by decide +kernel

theorem cached_ne_cachedFor : Header.cached ≠ Header.cachedFor := by decide

/-- The fields that are kept. -/
def keptFields (response : Response) : Multimap :=
  ((response.header.delete Header.cached).delete Header.cachedFor).fields

theorem getAll_keptFields (response : Response) (name : String) :
    (keptFields response).getAll name =
      if name = Header.cached ∨ name = Header.cachedFor then [] else response.header.fields.getAll name := by
  simp only [keptFields, Header.delete, headerName_cached, headerName_cachedFor, Multimap.getAll_delete]
  by_cases mark : name = Header.cachedFor
  · simp [mark]
  · simp [mark]

theorem getAll_keptFields_of_ne (mark : name ≠ Header.cached) (time : name ≠ Header.cachedFor) :
    (keptFields response).getAll name = response.header.fields.getAll name := by
  simp [getAll_keptFields, mark, time]

theorem contains_keptFields : (keptFields response).contains name = true ↔
    response.header.fields.contains name = true ∧ name ≠ Header.cached ∧ name ≠ Header.cachedFor := by
  rw [Multimap.contains_iff, Multimap.contains_iff, getAll_keptFields]
  by_cases mark : name = Header.cached ∨ name = Header.cachedFor
  · rcases mark with same | same <;> simp [same]
  · obtain ⟨notMark, notTime⟩ := not_or.mp mark
    simp [notMark, notTime]

/-- The fields of the header that is made of what is kept, before it is marked. -/
def respelled (response : Response) : Multimap :=
  .ofPairs ((keptFields response).pairs.map fun (name, value) => (headerName name, value))

theorem header_response (response : Response) (remainingMs : Nat) :
    ((ofResponse response).response remainingMs).header.fields =
      ((respelled response).set Header.cached "true").set Header.cachedFor (toString (remainingMs / 1000)) := by
  have pairs : ((ofResponse response).header.flatMap fun field => field.2.map (field.1, ·)) =
      (keptFields response).pairs := by
    simp [ofResponse, keptFields, Multimap.pairs, List.flatMap_map]
  have made : ((ofResponse response).response remainingMs).header =
      ((Header.ofPairs (keptFields response).pairs).set Header.cached "true").set Header.cachedFor
        (toString (remainingMs / 1000)) := by
    rw [← pairs]
    rfl
  simp only [made, Header.set, Header.ofPairs, headerName_cached, headerName_cachedFor, respelled]

theorem getAll_header_response (mark : name ≠ Header.cached) (time : name ≠ Header.cachedFor) :
    ((ofResponse response).response remainingMs).header.fields.getAll name = (respelled response).getAll name := by
  rw [header_response, Multimap.getAll_set, if_neg time.symm, Multimap.getAll_set, if_neg mark.symm]

/-- A name is there again if a name that is kept has it as its spelling. -/
theorem exists_of_getAll_respelled (there : (respelled response).getAll name ≠ []) :
    ∃ kept, (keptFields response).contains kept = true ∧ headerName kept = name := by
  obtain ⟨value, member⟩ := List.exists_mem_of_ne_nil _ there
  rw [respelled, Multimap.getAll_ofPairs, Multimap.mem_valuesOf] at member
  obtain ⟨⟨kept, value⟩, listed, same⟩ := List.mem_map.mp member
  obtain ⟨rfl, rfl⟩ := Prod.mk.inj same
  refine ⟨kept, ?_, rfl⟩
  rw [Multimap.contains_iff]
  exact List.ne_nil_of_mem (Multimap.mem_pairs_iff.mp listed)

theorem respelled_eq (settled : ∀ name, (keptFields response).contains name = true → headerName name = name) :
    respelled response = keptFields response := by
  have same : ∀ pair ∈ (keptFields response).pairs, (headerName pair.1, pair.2) = pair := by
    rintro ⟨name, value⟩ listed
    have kept : (keptFields response).contains name = true :=
      Multimap.contains_iff.mpr (List.ne_nil_of_mem (Multimap.mem_pairs_iff.mp listed))
    rw [settled name kept]
  calc respelled response
      = .ofPairs ((keptFields response).pairs.map id) := congrArg Multimap.ofPairs (List.map_congr_left same)
    _ = keptFields response := by rw [List.map_id, Multimap.ofPairs_pairs]

/-- The fields come back exactly if every name that is kept is spelled as it will be: a name can only come
back from one that is spelled otherwise if that one comes back too, and spelling ends after two steps. -/
theorem respelled_eq_iff : (∀ name, name ≠ Header.cached → name ≠ Header.cachedFor →
      (respelled response).getAll name = response.header.fields.getAll name) ↔
    ∀ name, (keptFields response).contains name = true → headerName name = name := by
  constructor
  · intro same name kept
    have before : ∀ name, (keptFields response).contains name = true →
        ∃ kept, (keptFields response).contains kept = true ∧ headerName kept = name := by
      intro name kept
      obtain ⟨listed, mark, time⟩ := contains_keptFields.mp kept
      apply exists_of_getAll_respelled
      rw [same name mark time]
      exact Multimap.contains_iff.mp listed
    obtain ⟨first, firstKept, rfl⟩ := before name kept
    obtain ⟨second, secondKept, rfl⟩ := before first firstKept
    obtain ⟨third, _, rfl⟩ := before second secondKept
    rw [headerName_settles]
  · intro settled name mark time
    rw [respelled_eq settled, getAll_keptFields_of_ne mark time]

/-! ## Round trips -/

/-- A response comes back the same, but for the two fields that mark it as kept. -/
structure Restored (response : Response) (remainingMs : Nat) (back : Response) : Prop where
  written : back.written = true
  status : back.status = response.status
  cached : back.header.fields.getAll Header.cached = ["true"]
  cachedFor : back.header.fields.getAll Header.cachedFor = [toString (remainingMs / 1000)]
  header : ∀ name, name ≠ Header.cached → name ≠ Header.cachedFor →
    back.header.fields.getAll name = response.header.fields.getAll name
  body : back.body.map seen = response.body.map seen

/-- What is stored of a response can be read, and the response comes back of it. -/
def RoundTrips (response : Response) (remainingMs : Nat) : Prop :=
  ∃ stored, decode? (ofResponse response).encode = some stored ∧
    Restored response remainingMs (stored.response remainingMs)

theorem restored_iff (made : ∀ body ∈ response.body, body.Made) :
    Restored response remainingMs ((ofResponse response).response remainingMs) ↔
      (∀ name, (keptFields response).contains name = true → headerName name = name) ∧
        ∀ body ∈ response.body, body.bytes.IsValidUTF8 := by
  rw [← respelled_eq_iff, ← map_seen_again_iff made]
  constructor
  · intro restored
    refine ⟨?_, restored.body⟩
    intro name mark time
    rw [← getAll_header_response mark time, restored.header name mark time]
  · rintro ⟨header, body⟩
    refine ⟨rfl, rfl, ?_, ?_, ?_, body⟩
    · rw [header_response, Multimap.getAll_set, if_neg cached_ne_cachedFor.symm, Multimap.getAll_set, if_pos rfl]
    · rw [header_response, Multimap.getAll_set, if_pos rfl]
    · intro name mark time
      rw [getAll_header_response mark time, header name mark time]

theorem roundTrips_iff_restored (small : response.status ≤ 65535) :
    RoundTrips response remainingMs ↔ Restored response remainingMs ((ofResponse response).response remainingMs) := by
  have read : decode? (ofResponse response).encode = some (ofResponse response) := decode?_encode small
  constructor
  · rintro ⟨stored, found, restored⟩
    rw [read] at found
    cases found
    exact restored
  · intro restored
    exact ⟨ofResponse response, read, restored⟩

/-- A response comes back exactly if the names of its header are spelled as they will be and its body is
UTF-8. -/
theorem roundTrips_iff (response : Response) (remainingMs : Nat) (small : response.status ≤ 65535)
    (made : ∀ body ∈ response.body, body.Made) :
    RoundTrips response remainingMs ↔
      (∀ name, response.header.fields.contains name = true → name ≠ Header.cached → name ≠ Header.cachedFor →
        headerName name = name) ∧
      ∀ body ∈ response.body, body.bytes.IsValidUTF8 := by
  rw [roundTrips_iff_restored small, restored_iff made]
  simp only [contains_keptFields, and_imp]

theorem roundTrips_page :
    RoundTrips (.ofWritten 200 (Header.empty.set "content-language" "de")
      (some (.ofMediaType "text/html" "<b>hi</b>".toUTF8))) 1000 := by
  refine (roundTrips_iff _ 1000 (by decide) ?_).mpr ⟨?_, ?_⟩
  · intro body given
    cases Option.some.inj given
    exact .ofMediaType _ _
  · intro name listed _ _
    have there := Multimap.contains_iff.mp listed
    by_cases same : headerName "content-language" = name
    · rw [← same]
      decide +kernel
    · exact absurd (by simp [Response.ofWritten, Header.set, Multimap.getAll_set, same, Header.empty]) there
  · intro body given
    cases Option.some.inj given
    decide +kernel

/-- Bytes that are no text are lost: an image comes back with other bytes. -/
theorem not_roundTrips_image :
    ¬ RoundTrips (.ofWritten 200 ∅ (some (.ofMediaType "image/png" ⟨#[0x89, 0x50, 0x4E, 0x47, 0xFF]⟩))) 1000 := by
  intro back
  have restored := (roundTrips_iff_restored (by decide)).mp back
  have bytes := (restored_iff ?made).mp restored |>.2 _ rfl
  case made =>
    intro body given
    cases Option.some.inj given
    exact .ofMediaType _ _
  exact absurd bytes (by decide +kernel)

end Junction.Cache.Stored
