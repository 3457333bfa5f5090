import Junction.Message.Body
import Junction.Proofs.Json.Without
import Junction.Proofs.Xml.Stack

/-!
Values that are read have no object with two fields of one name, whatever the format of the text: JSON and YAML keep the
last of several fields, XML joins them (`Body.distinct_value`).
-/

namespace Junction

variable {value : Json}

/-! ## JSON -/

namespace Json.Written

mutual

theorem distinct_of_valueWithin? {room : Nat} {value : Json} :
    (tree : Written) → valueWithin? room tree = some value → value.Distinct
  | .null, read => by
    cases read
    exact .null
  | .bool flag, read => by
    cases read
    exact .bool flag
  | .number _, read => by
    obtain ⟨number, _, rfl⟩ := Option.map_eq_some_iff.mp read
    exact .number number
  | .text _, read => by
    obtain ⟨text, _, rfl⟩ := Option.map_eq_some_iff.mp read
    exact .text text
  | .array items, read => by
    rw [valueWithin?] at read
    split at read
    · cases read
    · obtain ⟨values, inner, rfl⟩ := Option.map_eq_some_iff.mp read
      exact .array (distinct_of_itemsWithin? items inner)
  | .object fields, read => by
    rw [valueWithin?] at read
    split at read
    · cases read
    · obtain ⟨found, inner, rfl⟩ := Option.map_eq_some_iff.mp read
      exact .object (Keyed.nodup_names_ofList found) (Keyed.forall_ofList (distinct_of_fieldsWithin? fields inner))

theorem distinct_of_itemsWithin? {room : Nat} {values : List Json} :
    (items : List Written) → itemsWithin? room items = some values → ∀ value ∈ values, value.Distinct
  | [], read => by
    cases read
    nofun
  | item :: rest, read => by
    obtain ⟨value, first, read⟩ := Option.bind_eq_some_iff.mp read
    obtain ⟨more, later, rfl⟩ := Option.map_eq_some_iff.mp read
    exact List.forall_mem_cons.mpr ⟨distinct_of_valueWithin? item first, distinct_of_itemsWithin? rest later⟩

theorem distinct_of_fieldsWithin? {room : Nat} {found : List (String × Json)} :
    (fields : List (Option String × Written)) → fieldsWithin? room fields = some found →
      ∀ field ∈ found, field.2.Distinct
  | [], read => by
    cases read
    nofun
  | (_, item) :: rest, read => by
    obtain ⟨name, _, read⟩ := Option.bind_eq_some_iff.mp read
    obtain ⟨value, first, read⟩ := Option.bind_eq_some_iff.mp read
    obtain ⟨more, later, rfl⟩ := Option.map_eq_some_iff.mp read
    exact List.forall_mem_cons.mpr ⟨distinct_of_valueWithin? item first, distinct_of_fieldsWithin? rest later⟩

end

end Json.Written

theorem Json.distinct_of_read? {text : String} (read : Json.read? text = some value) : value.Distinct := by
  obtain ⟨tree, _, valued⟩ := Option.bind_eq_some_iff.mp read
  exact Written.distinct_of_valueWithin? tree valued

/-! ## YAML -/

namespace Yaml.Document

theorem distinct_of_jsonOf? {text : String} {scalar : Scalar} (read : jsonOf? text scalar = some value) : value.Distinct := by
  cases scalar with
  | largeInt => cases read
  | null | bool | int | double | notFinite | text =>
    cases read
    simp

theorem distinct_of_scalar? {tag : Option String} {plain : Bool} {text : String}
    (read : scalar? tag plain text = some value) : value.Distinct := by
  simp only [scalar?] at read
  split at read
  · cases read
  · split at read
    · obtain ⟨flag, _, rfl⟩ := Option.map_eq_some_iff.mp read
      exact .bool flag
    · split at read
      · obtain ⟨scalar, _, read⟩ := Option.bind_eq_some_iff.mp read
        exact distinct_of_jsonOf? read
      · split at read
        · obtain ⟨scalar, _, read⟩ := Option.bind_eq_some_iff.mp read
          exact distinct_of_jsonOf? read
        · split at read
          · split at read <;> cases read
            exact .null
          · split at read
            · exact distinct_of_jsonOf? read
            · cases read
              exact .text text

theorem forall_thread {α β : Type} {step : Nat → α → Option (β × Nat)} {P : β → Prop}
    (holds : ∀ count item result, step count item = some result → P result.1) {items : List α} {count after : Nat}
    {values : List β} (threaded : thread step count items = some (values, after)) : ∀ value ∈ values, P value := by
  induction items generalizing count values with
  | nil =>
    cases threaded
    nofun
  | cons item items ih =>
    obtain ⟨⟨first, next⟩, stepped, threaded⟩ := Option.bind_eq_some_iff.mp threaded
    obtain ⟨⟨rest, _⟩, threaded, same⟩ := Option.map_eq_some_iff.mp threaded
    cases same
    exact List.forall_mem_cons.mpr ⟨holds count item _ stepped, ih threaded⟩

theorem distinct_of_value? {document : Document} {room jumps : Nat} {node : Node} {result : Json × Nat}
    (read : document.value? room jumps node = some result) : result.1.Distinct := by
  induction room generalizing jumps node result with
  | zero =>
    obtain ⟨⟨node, _⟩, _, read⟩ := Option.bind_eq_some_iff.mp read
    cases node with
    | scalar tag plain text =>
      obtain ⟨_, scalar, rfl⟩ := Option.map_eq_some_iff.mp read
      exact distinct_of_scalar? scalar
    | _ => cases read
  | succ room ih =>
    obtain ⟨⟨node, _⟩, _, read⟩ := Option.bind_eq_some_iff.mp read
    cases node with
    | scalar tag plain text =>
      obtain ⟨_, scalar, rfl⟩ := Option.map_eq_some_iff.mp read
      exact distinct_of_scalar? scalar
    | sequence tag items =>
      simp only at read
      split at read
      · cases read
      · obtain ⟨⟨values, _⟩, threaded, rfl⟩ := Option.map_eq_some_iff.mp read
        exact .array (forall_thread (fun _ _ _ stepped => ih stepped) threaded)
    | mapping tag entries =>
      simp only at read
      split at read
      · cases read
      · obtain ⟨⟨fields, _⟩, threaded, rfl⟩ := Option.map_eq_some_iff.mp read
        refine .object (Keyed.nodup_names_ofList fields) (Keyed.forall_ofList ?_)
        refine forall_thread (P := fun field => field.2.Distinct) ?_ threaded
        intro _ _ _ stepped
        obtain ⟨_, _, stepped⟩ := Option.bind_eq_some_iff.mp stepped
        obtain ⟨_, inner, rfl⟩ := Option.map_eq_some_iff.mp stepped
        exact ih inner
    | _ => cases read

end Yaml.Document

theorem Yaml.distinct_of_decode? {bytes : ByteArray} (read : Yaml.decode? bytes = some value) : value.Distinct := by
  obtain ⟨_, _, read⟩ := Option.bind_eq_some_iff.mp read
  obtain ⟨root, _, read⟩ := Option.bind_eq_some_iff.mp read
  cases root with
  | none =>
    cases read
    exact .null
  | some root =>
    obtain ⟨_, valued, rfl⟩ := Option.map_eq_some_iff.mp read
    exact Document.distinct_of_value? valued

/-! ## XML -/

namespace Xml

variable {fields : List (String × Json)} {top : OpenElement} {outer : List OpenElement}

theorem distinct_insertChild (distinct : (Json.object fields).Distinct) (child : value.Distinct) (name : String) :
    (Json.object (insertChild fields name value)).Distinct := by
  rw [Json.distinct_object] at distinct ⊢
  obtain ⟨once, each⟩ := distinct
  have put : ∀ changed : Json, changed.Distinct →
      ((Keyed.put name changed fields).map (·.1)).Nodup ∧ ∀ field ∈ Keyed.put name changed fields, field.2.Distinct :=
    fun changed holds => ⟨Keyed.nodup_names_put once name changed, Keyed.forall_put each holds name⟩
  have present : ∀ {old}, Keyed.get? name fields = some old → old.Distinct := by
    intro old found
    obtain ⟨front, back, _, rfl⟩ := Keyed.exists_of_get? found
    exact each (name, old) (List.mem_append_right front List.mem_cons_self)
  rw [insertChild]
  split
  · rename_i items found
    have inside := Json.distinct_array.mp (present found)
    exact put _ (.array (List.forall_mem_append.mpr ⟨inside, List.forall_mem_singleton.mpr child⟩))
  · rename_i first _ found
    exact put _ (.array (List.forall_mem_cons.mpr ⟨present found, List.forall_mem_singleton.mpr child⟩))
  · exact put value child

theorem distinct_start (name : String) (attributes : List (String × String)) :
    (Json.object (OpenElement.start name attributes).fields).Distinct := by
  refine .object (Keyed.nodup_names_ofList _) (Keyed.forall_ofList ?_)
  intro field member
  obtain ⟨pair, _, rfl⟩ := List.mem_map.mp member
  exact .text pair.2

theorem distinct_value {element : OpenElement} (distinct : (Json.object element.fields).Distinct) :
    element.value.Distinct := by
  simp only [OpenElement.value]
  split
  · split
    · exact .null
    · exact .text _
  · split
    · exact distinct
    · rw [Json.distinct_object] at distinct
      exact .object (Keyed.nodup_names_put distinct.1 _ _) (Keyed.forall_put distinct.2 (.text _) _)

/-- While the elements that are open have no field twice, neither has what is read. -/
theorem distinct_of_valueOn {markup : List Markup} (opened : ∀ element ∈ top :: outer, (Json.object element.fields).Distinct)
    (read : valueOn top outer markup = .ok value) : value.Distinct := by
  induction markup generalizing top outer with
  | nil =>
    cases outer with
    | nil =>
      cases read
      exact distinct_value (opened top List.mem_cons_self)
    | cons => cases read
  | cons first markup ih =>
    obtain ⟨inner, around⟩ := List.forall_mem_cons.mp opened
    cases first with
    | opening name attributes => exact ih (List.forall_mem_cons.mpr ⟨distinct_start name attributes, opened⟩) read
    | closed name attributes =>
      have child := distinct_value (distinct_start name attributes)
      exact ih (List.forall_mem_cons.mpr ⟨distinct_insertChild inner child name, around⟩) read
    | text written =>
      let longer := { top with text := top.text ++ written.toList }
      have unchanged : (Json.object longer.fields).Distinct := inner
      exact ih (List.forall_mem_cons.mpr ⟨unchanged, around⟩) read
    | closing =>
      cases outer with
      | nil => cases read
      | cons parent outer =>
        obtain ⟨parental, around⟩ := List.forall_mem_cons.mp around
        exact ih (List.forall_mem_cons.mpr ⟨distinct_insertChild parental (distinct_value inner) top.name, around⟩) read

theorem distinct_of_decode {bytes : ByteArray} (read : decode bytes = .ok value) : value.Distinct := by
  rw [decode] at read
  split at read
  · rw [valueOf_eq] at read
    exact distinct_of_valueOn (List.forall_mem_singleton.mpr (distinct_start "" [])) read
  · cases read

end Xml

/-! ## Bodies -/

namespace Body

theorem distinct_of_decode {body : Body} (read : body.decode = .ok value) : value.Distinct := by
  have blank : ∀ {dark : Bool} {found : Option Json} {error : BodyError},
      (if dark then .ok .null else found.elim (.error error) .ok) = Except.ok value →
      (found = some value → value.Distinct) → value.Distinct := by
    intro dark found error read known
    cases dark with
    | true =>
      cases read
      exact .null
    | false =>
      cases found with
      | none => cases read
      | some found =>
        cases read
        exact known rfl
  rw [decode, decodeAs.eq_def] at read
  split at read
  · cases read
    exact .text _
  · apply blank read
    intro found
    obtain ⟨text, _, found⟩ := Option.bind_eq_some_iff.mp found
    exact Json.distinct_of_read? found
  · exact blank read Yaml.distinct_of_decode?
  · split at read
    · rename_i found
      cases read
      exact Xml.distinct_of_decode found
    all_goals cases read

/-- No object in the value of a body has two fields of one name. -/
theorem distinct_value (body : Body) : body.value.Distinct := by
  rw [value]
  split
  · rename_i read
    exact distinct_of_decode read
  · exact .text body.text

end Body
end Junction
