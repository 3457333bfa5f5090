import Junction.Data.Keyed
import Junction.Toml.Scalar

/-!
TOML documents: sections of assignments, gathered into one table. A table is written once; only tables that
stand for the beginning of a longer name may be extended.
-/

namespace Junction.Toml

/-- A value of a document. -/
inductive Value where
  | text (value : String)
  | int (value : Int)
  | bool (value : Bool)
  /-- A float, a date or a time. -/
  | other
  | array (items : List Value)
  /-- A table: whether it only begins a longer name, and whether that name is a dotted key. -/
  | table (implicit dotted : Bool) (fields : List (String × Value))
  /-- A table in braces; it is complete unless a dotted key made it. -/
  | braced (implicit : Bool) (fields : List (String × Value))
  /-- The tables of a name in double brackets. -/
  | tables (all : List (List (String × Value)))
deriving Inhabited

/-- The fields of a table. -/
abbrev Fields := List (String × Value)

/-! ## Assignments -/

/-- A value assigned to a dotted key inside a section; `dotted` says whether the fields belong to a table
that dotted keys made. -/
def assign (value : Value) : (key : List String) → Fields → Option Fields
  | [], _ => none
  | [last], fields => if Keyed.contains last fields then none else some (Keyed.put last value fields)
  | key :: rest, fields =>
    let final := rest.length = 1
    match Keyed.get? key fields with
    | none => (assign value rest []).map fun inner => Keyed.put key (.table true true inner) fields
    | some (.table implicit dotted inner) =>
      if !implicit || (final && !dotted) then none
      else (assign value rest inner).map fun inner => Keyed.put key (.table implicit dotted inner) fields
    | some (.tables all) =>
      if final then none
      else (assign value rest (all.getLast?.getD [])).map fun inner =>
        Keyed.put key (.tables (all.dropLast ++ [inner])) fields
    | some _ => none

/-- A value assigned to a dotted key inside braces. -/
def assignBraced (value : Value) : (key : List String) → Fields → Option Fields
  | [], _ => none
  | [last], fields => if Keyed.contains last fields then none else some (Keyed.put last value fields)
  | key :: rest, fields =>
    match Keyed.get? key fields with
    | none => (assignBraced value rest []).map fun inner => Keyed.put key (.braced true inner) fields
    | some (.braced true inner) =>
      (assignBraced value rest inner).map fun inner => Keyed.put key (.braced true inner) fields
    | some _ => none

/-- A change of the fields that a name leads to, through tables that are made where they are missing. -/
def within (change : Fields → Option Fields) : (name : List String) → Fields → Option Fields
  | [], fields => change fields
  | key :: rest, fields =>
    match Keyed.get? key fields with
    | none => (within change rest []).map fun inner => Keyed.put key (.table true false inner) fields
    | some (.table implicit dotted inner) =>
      (within change rest inner).map fun inner => Keyed.put key (.table implicit dotted inner) fields
    | some (.tables all) =>
      (within change rest (all.getLast?.getD [])).map fun inner =>
        Keyed.put key (.tables (all.dropLast ++ [inner])) fields
    | some _ => none

/-- A section: its header, none for the first one, and its assignments. -/
structure Section where
  /-- The name of the header, and whether it stands in double brackets. -/
  header : Option (List String × Bool)
  assignments : List (List String × Value)

/-- All assignments of a section. -/
def assignAll (fields : Fields) (assignments : List (List String × Value)) : Option Fields :=
  assignments.foldlM (fun fields (key, value) => assign value key fields) fields

/-- The table of a section under the last part of its name. -/
def place (found : Section) (last : String) (several : Bool) (fields : Fields) : Option Fields :=
  if several then
    let earlier := match Keyed.get? last fields with
      | none => some []
      | some (.tables all) => some all
      | some _ => none
    earlier.bind fun all =>
      (assignAll [] found.assignments).map fun inner => Keyed.put last (.tables (all ++ [inner])) fields
  else
    let begun := match Keyed.get? last fields with
      | none => some []
      | some (.table true false inner) => some inner
      | some _ => none
    begun.bind fun inner =>
      (assignAll inner found.assignments).map fun inner => Keyed.put last (.table false false inner) fields

/-- A document with one more section. -/
def addSection (fields : Fields) (found : Section) : Option Fields :=
  match found.header with
  | none => assignAll fields found.assignments
  | some (name, several) =>
    match name.getLast? with
    | some last => within (place found last several) name.dropLast fields
    | none => none

/-! ## Reading -/

/-- A character of bare keys. -/
def isBare (c : Char) : Bool := c.isAlphanum || c == '_' || c == '-'

/-- One part of a key. -/
def keyPart? (s : List Char) : Option (String × List Char) :=
  match s with
  | '\x22' :: rest =>
    (basic? (rest.length + 1) rest).map fun (text, rest) => (String.ofList text, rest)
  | '\'' :: rest => (literal? rest).map fun (text, rest) => (String.ofList text, rest)
  | _ =>
    let bare := s.takeWhile isBare
    if bare.isEmpty then none else some (String.ofList bare, s.drop bare.length)

/-- A key of parts with dots between them, and what follows the blanks after it. -/
def key? : (fuel : Nat) → List Char → Option (List String × List Char)
  | 0, _ => none
  | fuel + 1, s =>
    (keyPart? (skipBlanks s)).bind fun (part, rest) =>
      match skipBlanks rest with
      | '.' :: rest => (key? fuel rest).map fun (more, rest) => (part :: more, rest)
      | rest => some ([part], rest)

/-- What follows a comment, if one begins here. -/
def skipComment (s : List Char) : List Char :=
  match s with
  | '#' :: rest => rest.dropWhile isShown
  | _ => s

/-- What follows blanks, comments and line breaks; none for a comment that no line break ends. -/
def skipLines : (fuel : Nat) → List Char → List Char
  | 0, s => s
  | fuel + 1, s =>
    let rest := skipComment (skipBlanks s)
    match lineBreak? rest with
    | some rest => skipLines fuel rest
    | none => rest

/-- The greatest number of arrays and braces around a value. -/
def depthLimit : Nat := 80

mutual

/-- A value, inside at most `room` more arrays and braces. -/
def value? : (fuel : Nat) → (room : Nat) → List Char → Option (Value × List Char)
  | 0, _, _ => none
  | fuel + 1, room, s =>
    match s with
    | '[' :: rest =>
      if room = 0 then none
      else (items? fuel (room - 1) rest).map fun (items, rest) => (.array items, rest)
    | '\x7b' :: rest =>
      if room = 0 then none
      else match skipBlanks rest with
        | '\x7d' :: rest => some (.braced false [], rest)
        | rest => (pairs? fuel (room - 1) [] rest).map fun (fields, rest) => (.braced false fields, rest)
    | 't' :: 'r' :: 'u' :: 'e' :: rest => some (.bool true, rest)
    | 'f' :: 'a' :: 'l' :: 's' :: 'e' :: rest => some (.bool false, rest)
    | c :: _ =>
      if c = '\x22' ∨ c = '\'' then (string? s).map fun (text, rest) => (.text text, rest)
      else
        match dateTime? s with
        | some rest => some (.other, rest)
        | none =>
          match float? s with
          | some rest => some (.other, rest)
          | none => (integer? s).map fun (value, rest) => (.int value, rest)
    | [] => none

/-- The items of an array up to its bracket; a comma may come last. -/
def items? : (fuel : Nat) → (room : Nat) → List Char → Option (List Value × List Char)
  | 0, _, _ => none
  | fuel + 1, room, s =>
    match skipLines (s.length + 1) s with
    | ']' :: rest => some ([], rest)
    | s =>
      (value? fuel room s).bind fun (item, rest) =>
        match skipLines (rest.length + 1) rest with
        | ',' :: rest => (items? fuel room rest).map fun (more, rest) => (item :: more, rest)
        | ']' :: rest => some ([item], rest)
        | _ => none

/-- The assignments in braces after those before, up to the closing brace. -/
def pairs? : (fuel : Nat) → (room : Nat) → Fields → List Char → Option (Fields × List Char)
  | 0, _, _, _ => none
  | fuel + 1, room, fields, s =>
    (key? (s.length + 1) s).bind fun (key, rest) =>
      match rest with
      | '=' :: rest =>
        (value? fuel room (skipBlanks rest)).bind fun (value, rest) =>
          (assignBraced value key fields).bind fun fields =>
            match skipBlanks rest with
            | ',' :: rest => pairs? fuel room fields rest
            | '\x7d' :: rest => some (fields, rest)
            | _ => none
      | _ => none

end

/-- What follows the rest of a line: blanks, a comment, and the line break or the end. -/
def lineEnd? (s : List Char) : Option (List Char) :=
  match skipComment (skipBlanks s) with
  | [] => some []
  | rest => lineBreak? rest

/-- A header after its bracket. -/
def header? (s : List Char) : Option ((List String × Bool) × List Char) :=
  match s with
  | '[' :: rest =>
    (key? (rest.length + 1) rest).bind fun (name, rest) =>
      match rest with
      | ']' :: ']' :: rest => (lineEnd? rest).map fun rest => ((name, true), rest)
      | _ => none
  | _ =>
    (key? (s.length + 1) s).bind fun (name, rest) =>
      match rest with
      | ']' :: rest => (lineEnd? rest).map fun rest => ((name, false), rest)
      | _ => none

/-- An assignment with the rest of its line. -/
def assignment? (s : List Char) : Option ((List String × Value) × List Char) :=
  (key? (s.length + 1) s).bind fun (key, rest) =>
    match rest with
    | '=' :: rest =>
      (value? (2 * rest.length + 2) depthLimit (skipBlanks rest)).bind fun (value, rest) =>
        (lineEnd? rest).map fun rest => ((key, value), rest)
    | _ => none

/-- The sections from a line on, the current one first. -/
def sections? : (fuel : Nat) → (current : Section) → List Char → Option (List Section)
  | 0, _, _ => none
  | fuel + 1, current, s =>
    match skipLines (s.length + 1) s with
    | [] => some [current]
    | '[' :: rest =>
      (header? rest).bind fun (header, rest) =>
        (sections? fuel ⟨some header, []⟩ rest).map (current :: ·)
    | s =>
      (assignment? s).bind fun (found, rest) =>
        sections? fuel { current with assignments := current.assignments ++ [found] } rest

/-- The fields of a document. -/
def ofText? (text : List Char) : Option Fields :=
  let text := match text with
    | c :: rest => if c.toNat = 0xFEFF then rest else text
    | [] => []
  (sections? (text.length + 1) ⟨none, []⟩ text).bind fun found => found.foldlM addSection []

end Junction.Toml
