import Junction.Yaml.Token

/-!
From text to tokens. Indentation becomes tokens that open and close blocks, and a colon turns the scalar or
collection before it on its line into a key.
-/

namespace Junction.Yaml

/-- A place where a key may turn out to stand: whether one must stand there, the number of the token before
which it begins, and where that is. -/
structure PossibleKey where
  required : Bool
  token : Nat
  index : Nat
  line : Nat
  column : Nat
deriving Inhabited

/-- The state between two tokens. -/
structure Layout where
  cursor : Cursor
  tokens : Array Token
  /-- The number of flow brackets that are open. -/
  flow : Nat
  /-- The column of the innermost block, `-1` outside all blocks. -/
  indent : Int
  indents : List Int
  keyAllowed : Bool
  /-- The possible key of each open bracket, the innermost first. -/
  keys : List (Option PossibleKey)
deriving Inhabited

namespace Layout

/-- The state before a text. -/
def start (text : List Char) : Layout := ⟨.start text, #[], 0, -1, [], true, [none]⟩

/-- One more token. -/
def push (state : Layout) (token : Token) : Layout := { state with tokens := state.tokens.push token }

/-- The state at another place. -/
def moved (state : Layout) (cursor : Cursor) : Layout := { state with cursor := cursor }

/-- Blanks, comments and line breaks passed over; a new line in a block allows a key. Where a key is allowed
in a block a tab does not count as blank. -/
def skipSpace (state : Layout) : (fuel : Nat) → Layout
  | 0 => state
  | fuel + 1 =>
    let tabs := 0 < state.flow || !state.keyAllowed
    let c := state.cursor.dropWhile fun char => char == ' ' || (tabs && char == '\t')
    let c := if c.sees '#' then c.dropWhile (fun _ => true) else c
    if c.next isBreak then
      skipSpace { state with cursor := c.advance, keyAllowed := state.keyAllowed || state.flow == 0 } fuel
    else state.moved c

/-- A possible key is out of date: on an earlier line, or more than 1024 characters back. -/
def isStale (cursor : Cursor) (possible : PossibleKey) : Bool :=
  possible.line < cursor.line || possible.index + 1024 < cursor.index

/-- The keys without those that are out of date; none when one of these was required. -/
def dropStale? (state : Layout) : Option Layout :=
  (state.keys.mapM fun entry =>
    match entry with
    | none => some none
    | some possible =>
      if isStale state.cursor possible then (if possible.required then none else some none)
      else some (some possible)).map fun keys => { state with keys := keys }

/-- The innermost possible key given up; none when it was required. -/
def dropKey? (state : Layout) : Option Layout :=
  match state.keys with
  | some possible :: outer => if possible.required then none else some { state with keys := none :: outer }
  | _ => some state

/-- A key becomes possible here, if one is allowed. -/
def saveKey? (state : Layout) : Option Layout :=
  if state.keyAllowed then
    state.dropKey?.map fun state =>
      let c := state.cursor
      let required := state.flow == 0 && state.indent == (c.column : Int)
      { state with keys := some ⟨required, state.tokens.size, c.index, c.line, c.column⟩ :: state.keys.drop 1 }
  else some state

/-- The blocks that are indented further than a column closed. -/
def unroll (state : Layout) (column : Int) : Layout :=
  if 0 < state.flow then state
  else
    let closed := ((state.indent :: state.indents).takeWhile (column < ·)).length
    { state with
      tokens := state.tokens ++ Array.replicate closed Token.blockEnd
      indent := ((state.indent :: state.indents).drop closed).headD (-1)
      indents := state.indents.drop closed }

/-- A block opened at a column that is further in than the innermost block; its token is inserted with the
given number, or comes last. -/
def roll (state : Layout) (column : Nat) (number : Option Nat) (token : Token) : Layout :=
  if 0 < state.flow ∨ (column : Int) ≤ state.indent then state
  else
    let tokens := match number with
      | some number => state.tokens.toList.take number ++ token :: state.tokens.toList.drop number
      | none => state.tokens.toList ++ [token]
    { state with tokens := tokens.toArray, indent := column, indents := state.indent :: state.indents }

/-- A document marker or directive begins: all blocks are closed and no key is possible. -/
def closeAll? (state : Layout) : Option Layout :=
  (state.unroll (-1)).dropKey?.map fun state => { state with keyAllowed := false }

/-- An opening flow bracket. -/
def openFlow? (state : Layout) (token : Token) : Option Layout :=
  state.saveKey?.map fun state =>
    { state.push token with
      cursor := state.cursor.advance, flow := state.flow + 1, keyAllowed := true, keys := none :: state.keys }

/-- A closing flow bracket. -/
def closeFlow? (state : Layout) (token : Token) : Option Layout :=
  state.dropKey?.map fun state =>
    { state.push token with
      cursor := state.cursor.advance
      flow := state.flow - 1
      keyAllowed := false
      keys := if state.flow = 0 then state.keys else state.keys.drop 1 }

/-- A comma between the entries of a flow collection. -/
def flowEntry? (state : Layout) : Option Layout :=
  state.dropKey?.map fun state =>
    { state.push .flowEntry with cursor := state.cursor.advance, keyAllowed := true }

/-- A dash before an entry of a block sequence. -/
def blockEntry? (state : Layout) : Option Layout :=
  if state.flow = 0 ∧ !state.keyAllowed then none
  else
    (state.roll state.cursor.column none .blockSequenceStart).dropKey?.map fun state =>
      { state.push .blockEntry with cursor := state.cursor.advance, keyAllowed := true }

/-- A question mark before a key. -/
def explicitKey? (state : Layout) : Option Layout :=
  if state.flow = 0 ∧ !state.keyAllowed then none
  else
    (state.roll state.cursor.column none .blockMappingStart).dropKey?.map fun state =>
      { state.push .key with cursor := state.cursor.advance, keyAllowed := state.flow == 0 }

/-- A colon before a value: what stands at the possible key becomes the key; without one the key is explicit
or missing. -/
def value? (state : Layout) : Option Layout :=
  match state.keys with
  | some possible :: outer =>
    let tokens := state.tokens.toList.take possible.token ++ .key :: state.tokens.toList.drop possible.token
    let state := { state with tokens := tokens.toArray, keys := none :: outer }
    let state := state.roll possible.column (some possible.token) .blockMappingStart
    some { state.push .value with cursor := state.cursor.advance, keyAllowed := false }
  | _ =>
    if state.flow = 0 ∧ !state.keyAllowed then none
    else
      let state := state.roll state.cursor.column none .blockMappingStart
      some { state.push .value with cursor := state.cursor.advance, keyAllowed := state.flow == 0 }

/-- A token that may begin a key, and the place after it. -/
def node? (state : Layout) (read : Cursor → Option (Token × Cursor)) : Option Layout :=
  state.saveKey?.bind fun state =>
    (read state.cursor).map fun (token, after) =>
      { state.push token with cursor := after, keyAllowed := false }

/-- A block scalar; a key may follow it. -/
def blockScalar? (state : Layout) (literal : Bool) : Option Layout :=
  state.dropKey?.bind fun state =>
    (Token.blockScalar? literal state.indent state.cursor.advance).map fun (text, after) =>
      { state.push (.scalar false text) with cursor := after, keyAllowed := true }

/-- A quoted scalar. -/
def quoted? (quote : Char) (c : Cursor) : Option (Token × Cursor) :=
  (Token.quotedFrom? quote (c.rest.length + 1) c.advance).map fun (text, after) =>
    (.scalar false (String.ofList text), after)

/-- A plain scalar; a line break after it allows a key. -/
def plain? (state : Layout) : Option Layout :=
  state.saveKey?.bind fun state =>
    let c := state.cursor
    (Token.plainFrom? (0 < state.flow) (state.indent + 1).toNat (c.rest.length + 1) .none c).map
      fun (text, broken, after) =>
        { state.push (.scalar true (String.ofList text)) with cursor := after, keyAllowed := broken }

/-- The characters that begin no plain scalar. -/
def indicators : List Char :=
  ['-', '?', ':', ',', '[', ']', '\x7b', '\x7d', '#', '&', '*', '!', '|', '>', '\'', '\x22', '%', '@', '\x60']

/-- A plain scalar begins with the next character. -/
def beginsPlain (state : Layout) (char : Char) : Bool :=
  let c := state.cursor
  !(isBlank char || isBreak char || indicators.contains char) ||
    (char == '-' && !c.anyAfter 1 [' ', '\t']) ||
    (state.flow == 0 && (char == '?' || char == ':') && !c.blankAfter 1)

/-- The state after the token that begins with the next character. -/
def token? (state : Layout) (char : Char) : Option Layout :=
  let c := state.cursor
  let inFlow := decide (0 < state.flow)
  if c.column = 0 ∧ char = '%' then
    state.closeAll?.bind fun state =>
      (Token.directive? state.cursor.advance).map fun (token, after) => (state.push token).moved after
  else if c.atMarker '-' then
    state.closeAll?.map fun state => (state.push .documentStart).moved (state.cursor.advanceBy 3)
  else if c.atMarker '.' then
    state.closeAll?.map fun state => (state.push .documentEnd).moved (state.cursor.advanceBy 3)
  else if char = '[' then state.openFlow? .flowSequenceStart
  else if char = '\x7b' then state.openFlow? .flowMappingStart
  else if char = ']' then state.closeFlow? .flowSequenceEnd
  else if char = '\x7d' then state.closeFlow? .flowMappingEnd
  else if char = ',' then state.flowEntry?
  else if char = '-' ∧ c.blankAfter 1 then state.blockEntry?
  else if char = '?' ∧ (inFlow ∨ c.blankAfter 1) then state.explicitKey?
  else if char = ':' ∧ (inFlow ∨ c.blankAfter 1) then state.value?
  else if char = '*' then
    state.node? fun c => (Token.anchorName? c.advance).map fun (name, after) => (.alias name, after)
  else if char = '&' then
    state.node? fun c => (Token.anchorName? c.advance).map fun (name, after) => (.anchor name, after)
  else if char = '!' then state.node? (Token.tag? inFlow)
  else if char = '|' ∧ !inFlow then state.blockScalar? true
  else if char = '>' ∧ !inFlow then state.blockScalar? false
  else if char = '\'' then state.node? (quoted? '\'')
  else if char = '\x22' then state.node? (quoted? '\x22')
  else if state.beginsPlain char then state.plain?
  else none

/-- The state at the end of a text; none when a required key is missing. -/
def finish? (state : Layout) : Option Layout := (state.unroll (-1)).dropKey?

/-- The tokens from a state on. -/
def run? (state : Layout) : (fuel : Nat) → Option (List Token)
  | 0 => none
  | fuel + 1 => do
    let state ← (state.skipSpace (state.cursor.rest.length + 1)).dropStale?
    let state := state.unroll state.cursor.column
    match state.cursor.rest with
    | [] => state.finish?.map fun state => state.tokens.toList
    | char :: _ => (state.token? char).bind fun state => run? state fuel

end Layout

/-- The tokens of a YAML text; none when a character is not allowed or no token can be made of it. -/
def tokens? (text : List Char) : Option (List Token) :=
  if text.all isAllowed then (Layout.start text).run? (text.length + 1) else none

end Junction.Yaml
