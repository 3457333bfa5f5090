import Junction.Config.Setting
import Junction.Json.Written
import Junction.Toml.Document
import Junction.Yaml.Document

/-!
The values of JSON, YAML and TOML texts as values of a configuration.
-/

namespace Junction.Config

/-- A text format of configurations. -/
inductive FileFormat where
  | toml
  | json
  | yaml
deriving DecidableEq, Repr, Inhabited

namespace Setting

/-! ## JSON -/

/-- The alternative that an object of one field with a null names. -/
def soleNull : List (Option String × Json.Written) → Option String
  | [(some name, .null)] => some name
  | _ => none

mutual

/-- The value of a JSON text. -/
def ofWritten : Json.Written → Setting
  | .null => .node { isNone := true, scalar := some .null } none none
  | .bool value => .node { flag := some value, scalar := some (.bool value) } none none
  | .number value =>
    let json := value.map Json.number
    .node { word := json.bind Json.asWord?, scalar := json } none none
  | .text value => .node { text := value, variant := value, scalar := value.map .text } none none
  | .array items => .node {} (some (ofWrittenItems items)) none
  | .object fields => .node { variant := soleNull fields } none (some (ofWrittenFields fields))

/-- The values of items. -/
def ofWrittenItems : List Json.Written → List Setting
  | [] => []
  | item :: rest => ofWritten item :: ofWrittenItems rest

/-- The values of fields. -/
def ofWrittenFields : List (Option String × Json.Written) → List (Option String × Setting)
  | [] => []
  | (name, item) :: rest => (name, ofWritten item) :: ofWrittenFields rest

end

mutual

/-- The text that a JSON value would have, as a tree. -/
def written : Json → Json.Written
  | .null => .null
  | .bool value => .bool value
  | .number value => .number (some value)
  | .text value => .text (some value)
  | .array items => .array (writtenItems items)
  | .object fields => .object (writtenFields fields)

/-- The trees of items. -/
def writtenItems : List Json → List Json.Written
  | [] => []
  | item :: rest => written item :: writtenItems rest

/-- The trees of fields. -/
def writtenFields : List (String × Json) → List (Option String × Json.Written)
  | [] => []
  | (name, item) :: rest => (some name, written item) :: writtenFields rest

end

/-- A JSON value. -/
def ofJson (value : Json) : Setting := ofWritten (written value)

/-! ## YAML -/

/-- The text after the mark of a document's own tag, which names an alternative. -/
def ownTag? (tag : Option String) : Option String :=
  match tag.map String.toList with
  | some ['!'] => some "!"
  | some ('!' :: name) => some (String.ofList name)
  | _ => none

/-- A YAML scalar that stands for no value. -/
def isNullScalar (tag : Option String) (plain : Bool) (text : String) : Bool :=
  plain && (tag.isNone || tag == Yaml.Document.typeTag "null") && (text.isEmpty || Yaml.Scalar.isNull text)

/-- What a YAML scalar can be read as. A tag of the document's own names an alternative, when its scalar
stands for no value; any other scalar names one by its text. -/
def scalarReadings (tag : Option String) (plain : Bool) (text : String) : Readings :=
  { text := some text
    flag := if plain then Yaml.Scalar.bool? text else none
    word := if plain then Yaml.Scalar.natural? Text.wordLimit text.toList else none
    variant := match ownTag? tag with
      | some name => if plain && (text.isEmpty || Yaml.Scalar.isNull text) then some name else none
      | none => some text
    isNone := isNullScalar tag plain text
    isVoid := plain && text.isEmpty
    scalar := Yaml.Document.scalar? tag plain text }

/-- The value of a node inside at most `room` more collections, and the jumps that aliases have taken. A node
beyond these limits cannot be read. -/
def ofNode (document : Yaml.Document) : (room : Nat) → (jumps : Nat) → Yaml.Node → Setting × Nat
  | 0, jumps, start =>
    match document.follow? jumps start with
    | some (.scalar tag plain text, jumps) => (.node (scalarReadings tag plain text) none none, jumps)
    | _ => (unreadable, jumps)
  | room + 1, jumps, start =>
    match document.follow? jumps start with
    | some (.scalar tag plain text, jumps) => (.node (scalarReadings tag plain text) none none, jumps)
    | some (.sequence _ items, jumps) =>
      let (found, jumps) := items.foldl (fun (found, jumps) item =>
        let (value, jumps) := ofNode document room jumps item
        (value :: found, jumps)) (([] : List Setting), jumps)
      (.node {} (some found.reverse) none, jumps)
    | some (.mapping _ entries, jumps) =>
      let (found, jumps) := entries.foldl (fun (found, jumps) (key, item) =>
        let (name, jumps) := match document.key? jumps key with
          | some (name, jumps) => (some name, jumps)
          | none => (none, jumps)
        let (value, jumps) := ofNode document room jumps item
        ((name, value) :: found, jumps)) (([] : List (Option String × Setting)), jumps)
      (.node {} none (some found.reverse), jumps)
    | _ => (unreadable, jumps)

/-- The value of a YAML text; a text without a document has no entries. -/
def ofYaml? (text : String) : Option Setting :=
  let chars := match text.toList with
    | [] => []
    | c :: rest => if c.toNat = 0xFEFF then rest else c :: rest
  (Yaml.Node.ofText? chars).map fun root =>
    match root with
    | none => .node { isNone := true, isVoid := true, scalar := some .null } none none
    | some root => (ofNode (Yaml.Document.ofNode root) Yaml.Document.depthLimit 0 root).1

/-! ## TOML -/

/-- A TOML value without entries. -/
def isEmptyToml : Toml.Value → Bool
  | .array items => items.isEmpty
  | .table _ _ fields => fields.isEmpty
  | .braced _ fields => fields.isEmpty
  | .tables all => all.isEmpty
  | _ => false

/-- The alternative that a table of one field without entries names. -/
def soleEmpty : Toml.Fields → Option String
  | [(name, value)] => if isEmptyToml value then some name else none
  | _ => none

mutual

/-- The value of a TOML value. -/
def ofToml : Toml.Value → Setting
  | .text value => .node { text := some value, variant := some value, scalar := some (.text value) } none none
  | .int value =>
    .node { word := if 0 ≤ value then some value.natAbs else none, scalar := some (.number (.int value)) }
      none none
  | .bool value => .node { flag := some value, scalar := some (.bool value) } none none
  | .other => unreadable
  | .array items => .node { spareItems := true } (some (ofTomlItems items)) none
  | .table _ _ fields => .node { variant := soleEmpty fields } none (some (ofTomlFields fields))
  | .braced _ fields => .node { variant := soleEmpty fields } none (some (ofTomlFields fields))
  | .tables all => .node { spareItems := true } (some (ofTomlTables all)) none

/-- The values of items. -/
def ofTomlItems : List Toml.Value → List Setting
  | [] => []
  | item :: rest => ofToml item :: ofTomlItems rest

/-- The values of fields. -/
def ofTomlFields : List (String × Toml.Value) → List (Option String × Setting)
  | [] => []
  | (name, item) :: rest => (some name, ofToml item) :: ofTomlFields rest

/-- The values of several tables. -/
def ofTomlTables : List (List (String × Toml.Value)) → List Setting
  | [] => []
  | fields :: rest => .node { variant := soleEmpty fields } none (some (ofTomlFields fields)) :: ofTomlTables rest

end

/-! ## Texts -/

/-- The value of a text. -/
def ofText? (format : FileFormat) (text : String) : Option Setting :=
  match format with
  | .toml => (Toml.ofText? text.toList).map fun fields => .node {} none (some (ofTomlFields fields))
  | .json => (Json.Written.ofText? text.toList).map ofWritten
  | .yaml => ofYaml? text

end Setting
end Junction.Config
