import Junction.Data.Keyed
import Junction.Yaml.Layout

/-!
From tokens to the node of the only document of a YAML text. Nodes that an anchor names are numbered; an
alias gives the number.
-/

namespace Junction.Yaml

/-- A node of a document. -/
inductive Node where
  /-- A scalar: its tag, whether it stands without quotes on plain lines, and its text. -/
  | scalar (tag : Option String) (plain : Bool) (text : String)
  | sequence (tag : Option String) (items : List Node)
  | mapping (tag : Option String) (entries : List (Node × Node))
  | alias (number : Nat)
  | anchored (number : Nat) (node : Node)
deriving Inhabited

namespace Node

/-- A scalar without text. -/
def missing : Node := .scalar none true ""

/-! ## Tags and anchors -/

/-- The tag handles that every document knows. -/
def commonHandles : List (String × String) := [("!", "!"), ("!!", "tag:yaml.org,2002:")]

/-- The full tag of handle and suffix; none when the handle is unknown. -/
def fullTag? (handles : List (String × String)) (handle suffix : String) : Option String :=
  if handle.isEmpty then some suffix else (Keyed.get? handle handles).map (· ++ suffix)

/-- What a document knows of handles, and the number of each anchor name so far. -/
structure Names where
  handles : List (String × String)
  anchors : List (String × Nat)
deriving Inhabited

/-- A new number for an anchor name: the count of the names before. -/
def Names.withAnchor (names : Names) (anchor : String) : Names × Nat :=
  ({ names with anchors := Keyed.put anchor names.anchors.length names.anchors }, names.anchors.length)

/-- The anchor and the tag before a node. -/
structure Properties where
  anchor : Option String
  tag : Option String

/-- The properties that tokens begin with: an anchor, a tag, or both in either order. -/
def properties? (names : Names) : List Token → Option (Properties × List Token)
  | .anchor anchor :: .tag handle suffix :: rest =>
    (fullTag? names.handles handle suffix).map fun tag => (⟨some anchor, some tag⟩, rest)
  | .anchor anchor :: rest => some (⟨some anchor, none⟩, rest)
  | .tag handle suffix :: .anchor anchor :: rest =>
    (fullTag? names.handles handle suffix).map fun tag => (⟨some anchor, some tag⟩, rest)
  | .tag handle suffix :: rest =>
    (fullTag? names.handles handle suffix).map fun tag => (⟨none, some tag⟩, rest)
  | rest => some (⟨none, none⟩, rest)

/-- A node under the number of its anchor. -/
def numbered (number : Option Nat) (node : Node) : Node :=
  match number with
  | some number => .anchored number node
  | none => node

/-! ## Nodes -/

/-- Where a node stands: in a block, in a block as the value or key of a mapping, or in flow brackets. -/
inductive Place where
  | block
  | entry
  | flow
deriving DecidableEq

/-- What is left after a node has been read. -/
abbrev Rest := Names × List Token

/-- The next token is one of the given ones, or there is none. -/
def stops (ends : List Token) (tokens : List Token) : Bool :=
  match tokens with
  | [] => false
  | token :: _ => ends.contains token

mutual

/-- The node that tokens begin with. -/
def read? : (fuel : Nat) → Place → Names → List Token → Option (Node × Rest)
  | 0, _, _, _ => none
  | fuel + 1, place, names, tokens =>
    match tokens with
    | .alias name :: rest => (Keyed.get? name names.anchors).map fun number => (.alias number, names, rest)
    | _ =>
      (properties? names tokens).bind fun (properties, tokens) =>
        let (names, number) := match properties.anchor with
          | some anchor =>
            let (names, number) := names.withAnchor anchor
            (names, some number)
          | none => (names, none)
        let tag := properties.tag
        let finish (node : Node) (rest : Rest) : Option (Node × Rest) := some (numbered number node, rest)
        match tokens with
        | .scalar plain text :: rest =>
          finish (.scalar (tag.filter (· != "!")) plain text) (names, rest)
        | .flowSequenceStart :: rest =>
          (flowItems? fuel true names rest).bind fun (items, rest) => finish (.sequence tag items) rest
        | .flowMappingStart :: rest =>
          (flowEntries? fuel true names rest).bind fun (entries, rest) => finish (.mapping tag entries) rest
        | .blockSequenceStart :: rest =>
          if place = .flow then none
          else (blockItems? fuel names rest).bind fun (items, rest) => finish (.sequence tag items) rest
        | .blockMappingStart :: rest =>
          if place = .flow then none
          else (blockEntries? fuel names rest).bind fun (entries, rest) => finish (.mapping tag entries) rest
        | .blockEntry :: _ =>
          if place = .entry then
            (entryItems? fuel names tokens).bind fun (items, rest) => finish (.sequence tag items) rest
          else if properties.anchor.isSome || tag.isSome then finish (.scalar tag true "") (names, tokens)
          else none
        | _ =>
          if properties.anchor.isSome || tag.isSome then finish (.scalar tag true "") (names, tokens)
          else none

/-- A node, or a missing one when a token comes that ends the place. -/
def readOrMissing? : (fuel : Nat) → Place → (ends : List Token) → Names → List Token → Option (Node × Rest)
  | 0, _, _, _, _ => none
  | fuel + 1, place, ends, names, tokens =>
    if stops ends tokens then some (missing, names, tokens) else read? fuel place names tokens

/-- The items of a block sequence up to its end. -/
def blockItems? : (fuel : Nat) → Names → List Token → Option (List Node × Rest)
  | 0, _, _ => none
  | fuel + 1, names, tokens =>
    match tokens with
    | .blockEntry :: rest => do
      let (item, names, rest) ← readOrMissing? fuel .block [.blockEntry, .blockEnd] names rest
      let (more, rest) ← blockItems? fuel names rest
      some (item :: more, rest)
    | .blockEnd :: rest => some ([], names, rest)
    | _ => none

/-- The items of a block sequence that is not indented further than the mapping around it. -/
def entryItems? : (fuel : Nat) → Names → List Token → Option (List Node × Rest)
  | 0, _, _ => none
  | fuel + 1, names, tokens =>
    match tokens with
    | .blockEntry :: rest => do
      let (item, names, rest) ← readOrMissing? fuel .block [.blockEntry, .key, .value, .blockEnd] names rest
      let (more, rest) ← entryItems? fuel names rest
      some (item :: more, rest)
    | rest => some ([], names, rest)

/-- The entries of a block mapping up to its end. -/
def blockEntries? : (fuel : Nat) → Names → List Token → Option (List (Node × Node) × Rest)
  | 0, _, _ => none
  | fuel + 1, names, tokens =>
    match tokens with
    | .key :: rest => do
      let (key, names, rest) ← readOrMissing? fuel .entry [.key, .value, .blockEnd] names rest
      let (value, names, rest) ← blockValue? fuel names rest
      let (more, rest) ← blockEntries? fuel names rest
      some ((key, value) :: more, rest)
    | .blockEnd :: rest => some ([], names, rest)
    | _ => none

/-- The value after a key of a block mapping. -/
def blockValue? : (fuel : Nat) → Names → List Token → Option (Node × Rest)
  | 0, _, _ => none
  | fuel + 1, names, tokens =>
    match tokens with
    | .value :: rest => readOrMissing? fuel .entry [.key, .value, .blockEnd] names rest
    | _ => some (missing, names, tokens)

/-- The items of a flow sequence up to its bracket; a key makes a mapping of one entry. -/
def flowItems? : (fuel : Nat) → (first : Bool) → Names → List Token → Option (List Node × Rest)
  | 0, _, _, _ => none
  | fuel + 1, first, names, tokens =>
    match first, tokens with
    | _, .flowSequenceEnd :: rest => some ([], names, rest)
    | false, .flowEntry :: .flowSequenceEnd :: rest => some ([], names, rest)
    | false, .flowEntry :: rest => flowItem? fuel names rest
    | false, _ => none
    | true, rest => flowItem? fuel names rest

/-- One item of a flow sequence and those after it. -/
def flowItem? : (fuel : Nat) → Names → List Token → Option (List Node × Rest)
  | 0, _, _ => none
  | fuel + 1, names, tokens =>
    match tokens with
    | .key :: rest => do
      let (key, names, rest) ←
        match rest with
        | .value :: rest => some (missing, names, rest)
        | .flowEntry :: rest => some (missing, names, rest)
        | .flowSequenceEnd :: rest => some (missing, names, rest)
        | _ => read? fuel .flow names rest
      let (value, names, rest) ←
        match rest with
        | .value :: rest => readOrMissing? fuel .flow [.flowEntry, .flowSequenceEnd] names rest
        | _ => some (missing, names, rest)
      let (more, rest) ← flowItems? fuel false names rest
      some (.mapping none [(key, value)] :: more, rest)
    | _ => do
      let (item, names, rest) ← read? fuel .flow names tokens
      let (more, rest) ← flowItems? fuel false names rest
      some (item :: more, rest)

/-- The entries of a flow mapping up to its bracket. -/
def flowEntries? : (fuel : Nat) → (first : Bool) → Names → List Token → Option (List (Node × Node) × Rest)
  | 0, _, _, _ => none
  | fuel + 1, first, names, tokens =>
    match first, tokens with
    | _, .flowMappingEnd :: rest => some ([], names, rest)
    | false, .flowEntry :: .flowMappingEnd :: rest => some ([], names, rest)
    | false, .flowEntry :: rest => flowPair? fuel names rest
    | false, _ => none
    | true, rest => flowPair? fuel names rest

/-- One entry of a flow mapping and those after it; only a key token brings a value. -/
def flowPair? : (fuel : Nat) → Names → List Token → Option (List (Node × Node) × Rest)
  | 0, _, _ => none
  | fuel + 1, names, tokens =>
    match tokens with
    | .key :: rest => do
      let (key, names, rest) ← readOrMissing? fuel .flow [.value, .flowEntry, .flowMappingEnd] names rest
      let (value, names, rest) ←
        match rest with
        | .value :: rest => readOrMissing? fuel .flow [.flowEntry, .flowMappingEnd] names rest
        | _ => some (missing, names, rest)
      let (more, rest) ← flowEntries? fuel false names rest
      some ((key, value) :: more, rest)
    | _ => do
      let (key, names, rest) ← read? fuel .flow names tokens
      let (more, rest) ← flowEntries? fuel false names rest
      some ((key, missing) :: more, rest)

end

/-! ## Documents -/

/-- The handles that directives declare, and what follows the directives; none for a second version, an
unknown version, or a handle declared twice. -/
def directives? : (version : Bool) → (handles : List (String × String)) → List Token →
    Option (List (String × String) × List Token)
  | version, handles, .version major minor :: rest =>
    if version || major != 1 || (minor != 1 && minor != 2) then none else directives? true handles rest
  | version, handles, .tagDirective handle start :: rest =>
    if Keyed.contains handle handles then none
    else directives? version (handles ++ [(handle, start)]) rest
  | _, handles, rest => some (handles, rest)

/-- The node of a document after its start, and what follows; an empty document has a missing node. -/
def content? (handles : List (String × String)) (tokens : List Token) : Option (Node × List Token) :=
  let ended := match tokens with
    | [] => true
    | .version _ _ :: _ => true
    | .tagDirective _ _ :: _ => true
    | .documentStart :: _ => true
    | .documentEnd :: _ => true
    | _ => false
  if ended then some (missing, tokens)
  else
    (read? (4 * tokens.length + 4) .block ⟨handles ++ commonHandles, []⟩ tokens).map
      fun (node, _, rest) => (node, rest)

/-- The first document, and what follows it. -/
def document? (tokens : List Token) : Option (Node × List Token) :=
  match tokens with
  | .version _ _ :: _ | .tagDirective _ _ :: _ | .documentStart :: _ =>
    (directives? false [] tokens).bind fun (handles, rest) =>
      match rest with
      | .documentStart :: rest => content? handles rest
      | _ => none
  | _ => (read? (4 * tokens.length + 4) .block ⟨commonHandles, []⟩ tokens).map fun (node, _, rest) => (node, rest)

/-- The node of the only document of a text. The outer option fails when the text is not YAML or has several
documents; the inner one is none when it has no document. -/
def ofText? (text : List Char) : Option (Option Node) := do
  let tokens ← tokens? text
  if tokens.isEmpty then some none
  else
    let (node, rest) ← document? tokens
    if rest.all (· == .documentEnd) then some (some node) else none

/-- Pairs of bytes as 16-bit units; none for an odd number of bytes. -/
def units? (unit : UInt8 → UInt8 → Nat) : List UInt8 → Option (List Nat)
  | [] => some []
  | first :: second :: rest => (units? unit rest).map (unit first second :: ·)
  | [_] => none

/-- The characters of 16-bit units; none for a surrogate outside a pair. -/
def characters? : List Nat → Option (List Char)
  | [] => some []
  | high :: low :: rest =>
    if 0xD800 ≤ high ∧ high ≤ 0xDBFF then
      if 0xDC00 ≤ low ∧ low ≤ 0xDFFF then
        (characters? rest).map (Char.ofNat (0x10000 + (high - 0xD800) * 0x400 + (low - 0xDC00)) :: ·)
      else none
    else (Text.scalar? high).bind fun c => (characters? (low :: rest)).map (c :: ·)
  | [unit] => (Text.scalar? unit).map ([·])

/-- The text of bytes, in UTF-16 when they begin with its byte order mark, else in UTF-8. -/
def textOf? (bytes : ByteArray) : Option (List Char) :=
  match bytes.toList with
  | 0xFF :: 0xFE :: rest => (units? (fun low high => low.toNat + 256 * high.toNat) rest).bind characters?
  | 0xFE :: 0xFF :: rest => (units? (fun high low => low.toNat + 256 * high.toNat) rest).bind characters?
  | 0xEF :: 0xBB :: 0xBF :: rest => (String.fromUTF8? ⟨rest.toArray⟩).map String.toList
  | _ => (String.fromUTF8? bytes).map String.toList

/-! ## Anchored nodes -/

mutual

/-- The nodes with a number inside a node, in the order of the text. -/
def anchors : Node → List (Nat × Node)
  | .scalar _ _ _ => []
  | .alias _ => []
  | .sequence _ items => itemAnchors items
  | .mapping _ entries => entryAnchors entries
  | .anchored number node => (number, node) :: anchors node

/-- The nodes with a number inside items. -/
def itemAnchors : List Node → List (Nat × Node)
  | [] => []
  | item :: rest => anchors item ++ itemAnchors rest

/-- The nodes with a number inside entries. -/
def entryAnchors : List (Node × Node) → List (Nat × Node)
  | [] => []
  | (key, value) :: rest => anchors key ++ anchors value ++ entryAnchors rest

end

mutual

/-- The number of nodes and collection ends of a node. -/
def events : Node → Nat
  | .scalar _ _ _ => 1
  | .alias _ => 1
  | .sequence _ items => itemEvents items + 2
  | .mapping _ entries => entryEvents entries + 2
  | .anchored _ node => events node

/-- The number of nodes and collection ends of items. -/
def itemEvents : List Node → Nat
  | [] => 0
  | item :: rest => events item + itemEvents rest

/-- The number of nodes and collection ends of entries. -/
def entryEvents : List (Node × Node) → Nat
  | [] => 0
  | (key, value) :: rest => events key + events value + entryEvents rest

end

/-- The node with a number: the last one that got it. -/
def withNumber? (all : List (Nat × Node)) (number : Nat) : Option Node :=
  (all.reverse.find? fun entry => entry.1 == number).map (·.2)

end Node
end Junction.Yaml
