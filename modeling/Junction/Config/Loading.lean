import Junction.Config.Source
import Junction.Config.Validation

/-!
From the text of a configuration to a resolved gateway.
-/

namespace Junction.Config

/-- Why no gateway can be loaded. -/
inductive LoadError where
  /-- The file is missing or is no text. -/
  | unreadable
  /-- The text is not of its format, or a value has the wrong shape. -/
  | rejected (format : FileFormat)
  | unknownFormat (extension : String)
  | invalid (faults : List Fault)

namespace LoadError

/-- The wording of an error. -/
def message : LoadError → String
  | unreadable => "IO error: the file cannot be read"
  | rejected .toml => "TOML parse error: not a configuration"
  | rejected .json => "JSON parse error: not a configuration"
  | rejected .yaml => "YAML parse error: not a configuration"
  | unknownFormat extension =>
    "unsupported config format '" ++ extension ++ "', expected toml, json, yaml or yml"
  | invalid faults => "Validation failed: " ++ ", ".intercalate (faults.map (·.message))

end LoadError

/-- The format of an extension, whatever the case of its letters. -/
def formatOf (extension : String) : Except LoadError FileFormat :=
  match Text.lowerAscii extension with
  | "toml" => .ok .toml
  | "json" => .ok .json
  | "yaml" => .ok .yaml
  | "yml" => .ok .yaml
  | other => .error (.unknownFormat other)

/-- The last name of a path, none when it ends in one that stands for a directory. -/
def fileName? (path : String) : Option (List Char) :=
  match ((Text.pieces '/' path.toList).filter fun part => !(part.isEmpty || part == ['.'])).getLast? with
  | some ['.', '.'] => none
  | found => found

/-- The extension of a path: what follows the last dot of its name, unless that dot is the first character. -/
def extensionOf (path : String) : String :=
  match fileName? path with
  | none => ""
  | some name =>
    let last := (name.reverse.takeWhile (· != '.')).reverse
    if last.length + 1 < name.length then String.ofList last else ""

/-- The gateway of a text. -/
def parse (format : FileFormat) (text : String) : Except LoadError Gateway :=
  match Setting.ofText? format text with
  | none => .error (.rejected format)
  | some setting =>
    match Gateway.read setting with
    | .error _ => .error (.rejected format)
    | .ok gateway =>
      let found := faults gateway
      if found.isEmpty then .ok gateway.resolve else .error (.invalid found)

/-- The gateway of a file with a path and, unless it is missing, its bytes. -/
def load (path : String) (content : Option ByteArray) : Except LoadError Gateway :=
  (formatOf (extensionOf path)).bind fun format =>
    match content.bind String.fromUTF8? with
    | some text => parse format text
    | none => .error .unreadable

end Junction.Config
