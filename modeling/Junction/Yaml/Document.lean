import Junction.Yaml.Node
import Junction.Yaml.Scalar

/-!
YAML documents as JSON values. Aliases stand for the nodes they name, and a text, a scalar with an unknown
tag and a quoted scalar read as text.
-/

namespace Junction.Yaml

/-- A document: its node, the nodes that have a number, and the number of its events. -/
structure Document where
  root : Node
  numbered : List (Nat × Node)
  events : Nat
deriving Inhabited

namespace Document

/-- The document of a node. -/
def ofNode (root : Node) : Document := ⟨root, root.anchors, root.events⟩

/-- The number of times that aliases may be followed. -/
def jumpLimit (document : Document) : Nat := 100 * document.events

/-- A node without the number of its anchor. -/
def bare : Node → Node
  | .anchored _ node => node
  | node => node

/-- The node that a node stands for, and the jumps that aliases have taken; none when there are too many. -/
def follow? (document : Document) (jumps : Nat) (node : Node) : Option (Node × Nat) :=
  match bare node with
  | .alias number =>
    if document.jumpLimit ≤ jumps then none
    else (Node.withNumber? document.numbered number).map fun node => (bare node, jumps + 1)
  | node => some (node, jumps)

/-- A tag of the document's own, which names a variant rather than a type. -/
def isLocal (tag : Option String) : Bool := (tag.map fun tag => tag.toList.head? == some '!').getD false

/-- The tag of a type that YAML knows. -/
def typeTag (name : String) : Option String := some ("tag:yaml.org,2002:" ++ name)

/-- The JSON value of what a scalar denotes; an integer beyond the words has none. -/
def jsonOf? (text : String) : Scalar → Option Json
  | .null => some .null
  | .bool value => some (.bool value)
  | .int value => some (.number (.int value))
  | .largeInt => none
  | .double value => some (.number (.double value))
  | .notFinite => some .null
  | .text => some (.text text)

/-- The JSON value of a scalar; a tag of a type demands a text of that type. -/
def scalar? (tag : Option String) (plain : Bool) (text : String) : Option Json :=
  if isLocal tag then none
  else if tag = typeTag "bool" then (Scalar.bool? text).map .bool
  else if tag = typeTag "int" then (Scalar.ofInt? text).bind (jsonOf? text)
  else if tag = typeTag "float" then (Scalar.ofDouble? text).bind (jsonOf? text)
  else if tag = typeTag "null" then (if Scalar.isNull text then some .null else none)
  else if tag.isNone && plain then jsonOf? text (Scalar.ofText text)
  else some (.text text)

/-- A function with a running count on every element of a list. -/
def thread {α β : Type} (step : Nat → α → Option (β × Nat)) : Nat → List α → Option (List β × Nat)
  | count, [] => some ([], count)
  | count, item :: rest =>
    (step count item).bind fun (value, count) =>
      (thread step count rest).map fun (values, count) => (value :: values, count)

/-- The text of a key, which is a scalar. -/
def key? (document : Document) (jumps : Nat) (node : Node) : Option (String × Nat) :=
  (follow? document jumps node).bind fun (node, jumps) =>
    match node with
    | .scalar _ _ text => some (text, jumps)
    | _ => none

/-- The JSON value of a node inside at most `room` more collections. -/
def value? (document : Document) : (room : Nat) → (jumps : Nat) → Node → Option (Json × Nat)
  | 0, jumps, node =>
    (follow? document jumps node).bind fun (node, jumps) =>
      match node with
      | .scalar tag plain text => (scalar? tag plain text).map (·, jumps)
      | _ => none
  | room + 1, jumps, node =>
    (follow? document jumps node).bind fun (node, jumps) =>
      match node with
      | .scalar tag plain text => (scalar? tag plain text).map (·, jumps)
      | .sequence tag items =>
        if isLocal tag then none
        else (thread (value? document room) jumps items).map fun (values, jumps) => (.array values, jumps)
      | .mapping tag entries =>
        if isLocal tag then none
        else
          let entry (jumps : Nat) (entry : Node × Node) : Option ((String × Json) × Nat) :=
            (key? document jumps entry.1).bind fun (name, jumps) =>
              (value? document room jumps entry.2).map fun (value, jumps) => ((name, value), jumps)
          (thread entry jumps entries).map fun (fields, jumps) => (.object (Keyed.ofList fields), jumps)
      | _ => none

/-- The greatest number of collections around a node. -/
def depthLimit : Nat := 128

end Document

/-- The JSON value of the only document of a YAML text; null when it has none. -/
def decode? (bytes : ByteArray) : Option Json :=
  (Node.textOf? bytes).bind fun text =>
    (Node.ofText? text).bind fun root =>
      match root with
      | none => some .null
      | some root =>
        let document := Document.ofNode root
        (document.value? Document.depthLimit 0 root).map (·.1)

end Junction.Yaml
