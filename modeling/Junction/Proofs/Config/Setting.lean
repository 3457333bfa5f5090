import Junction.Config.Source

/-!
Readers give back what JSON values were made of: one law for each reader, and one step for each field of a
record.
-/

namespace Junction.Config
open Setting (ofJson)

variable {α β : Type}

namespace Setting

theorem writtenItems_map (make : α → Json) (values : List α) :
    writtenItems (values.map make) = values.map fun value => written (make value) := by
  induction values with
  | nil => rfl
  | cons value values ih => simp only [List.map_cons, writtenItems, ih]

theorem ofWrittenItems_map (make : α → Json.Written) (values : List α) :
    ofWrittenItems (values.map make) = values.map fun value => ofWritten (make value) := by
  induction values with
  | nil => rfl
  | cons value values ih => simp only [List.map_cons, ofWrittenItems, ih]

theorem items?_array (make : α → Json) (values : List α) :
    (ofJson (.array (values.map make))).items? = some (values.map fun value => ofJson (make value)) := by
  simp only [ofJson, written, writtenItems_map, ofWritten, ofWrittenItems_map]
  rfl

end Setting

namespace Reader

/-- A reader gives back what a JSON value was made of. -/
def Restores (read : Reader α) (make : α → Json) (value : α) : Prop := read (ofJson (make value)) = .ok value

theorem text_restores (value : String) : Restores text .text value := rfl

theorem status_restores {value : Nat} (small : value ≤ 65535) : Restores status Json.ofNat value := by
  have word : (ofJson (Json.ofNat value)).readings.word = some value := by
    simp [Json.ofNat, Json.ofInt, ofJson, Setting.written, Setting.ofWritten, Setting.readings, Json.asWord?]
  have within : (some value).filter (· ≤ 65535) = some value := by simp [small]
  simp only [Restores, status, upTo, word, within]
  rfl

theorem variant_restores {ofName? : String → Option α} {name : α → String} {value : α}
    (known : ofName? (name value) = some value) :
    Restores (variant ofName?) (fun value => .text (name value)) value := by
  have named : (ofJson (.text (name value))).readings.variant = some (name value) := rfl
  simp only [Restores, variant, named, Option.bind_some, known]
  rfl

/-- An optional value, or null when there is none. -/
theorem optional_restores {read : Reader α} {name : α → String} {found : Option α}
    (restores : ∀ value ∈ found, Restores read (fun value => .text (name value)) value) :
    Restores (optional read) (fun found => Json.textOrNull (found.map name)) found := by
  cases found with
  | none => rfl
  | some value =>
    have here : read (ofJson (.text (name value))) = .ok value := restores value rfl
    have present : (ofJson (.text (name value))).readings.isNone = false := rfl
    simp only [Restores, optional, Option.map_some, Json.textOrNull, present, here]
    rfl

theorem mapM_restores {read : Reader α} {make : α → Json} (values : List α)
    (restores : ∀ value ∈ values, Restores read make value) :
    (values.map fun value => ofJson (make value)).mapM read = .ok values := by
  induction values with
  | nil => rfl
  | cons value values ih =>
    have here : read (ofJson (make value)) = .ok value := restores value List.mem_cons_self
    have later := ih fun other member => restores other (List.mem_cons_of_mem value member)
    rw [List.map_cons, List.mapM_cons, here, later]
    rfl

theorem list_restores {read : Reader α} {make : α → Json} {values : List α}
    (restores : ∀ value ∈ values, Restores read make value) :
    Restores (list read) (fun values => .array (values.map make)) values := by
  simp only [Restores, list, Setting.items?_array, ofOption]
  exact mapM_restores values restores

/-- A known field that was not given before becomes part of the record. -/
theorem putFields_cons {fields : List (Field α)} {name : String} {read : Reader β} {put : β → α → α}
    {make : β → Json} {value : β} {seen : List String}
    (known : fields.find? (fun known => known.name == name) = some (.field name read put))
    (new : seen.contains name = false) (restores : Restores read make value) (record : α)
    (rest : List (Option String × Setting)) :
    putFields fields seen record ((some name, ofJson (make value)) :: rest) =
      putFields fields (name :: seen) (put value record) rest := by
  have here : read (ofJson (make value)) = .ok value := restores
  rw [putFields, known]
  simp only [new, Field.field, here]
  rfl

end Reader
end Junction.Config
