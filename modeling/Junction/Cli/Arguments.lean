import Junction.Text.Cut

/-!
The command line: which configuration file to use, and whether only to validate it.
-/

namespace Junction.Cli

/-- What the command line asks for. -/
structure Options where
  /-- The configuration file, if one is given. -/
  config? : Option String := none
  validate : Bool := false
  noWatch : Bool := false
deriving DecidableEq, Repr, Inhabited

/-- Why a command line is not run. -/
inductive Halt where
  /-- Help is asked for. -/
  | help
  /-- An argument is unknown, repeated, or lacks its value. -/
  | usage
deriving DecidableEq, Repr, Inhabited

namespace Options

/-- The options with a configuration file, which is given at most once and not empty. -/
def withConfig (options : Options) (path : String) : Except Halt Options :=
  if options.config?.isSome || path.isEmpty then .error .usage else .ok { options with config? := some path }

/-- The options with the validation switch, which is given at most once. -/
def withValidate (options : Options) : Except Halt Options :=
  if options.validate then .error .usage else .ok { options with validate := true }

/-- The options with the switch against watching, which is given at most once. -/
def withNoWatch (options : Options) : Except Halt Options :=
  if options.noWatch then .error .usage else .ok { options with noWatch := true }

/-- An argument that cannot be the value of another: a dash and more. -/
def isFlag (argument : String) : Bool :=
  match argument.toList with
  | '-' :: _ :: _ => true
  | _ => false

/-- The value in one argument with its short name: an equals sign between them does not count. -/
def attached (value : List Char) : String :=
  String.ofList (match value with
    | '=' :: rest => rest
    | other => other)

/-- The options after an argument that needs nothing after it. -/
def one (options : Options) (argument : String) : Except Halt Options :=
  match argument with
  | "--validate" => options.withValidate
  | "--no-watch" => options.withNoWatch
  | "--help" => .error .help
  | other =>
    match other.toList with
    | '-' :: 'h' :: _ => .error .help
    | '-' :: 'c' :: value => options.withConfig (attached value)
    | chars =>
      match Text.after? "--config=".toList chars with
      | some value => options.withConfig (String.ofList value)
      | none => .error .usage

/-- The options after all arguments. -/
def addAll : Options → List String → Except Halt Options
  | options, [] => .ok options
  | options, [argument] =>
    if argument == "--config" || argument == "-c" then .error .usage
    else if argument == "--" then .ok options
    else options.one argument
  | options, argument :: next :: rest =>
    if argument == "--config" || argument == "-c" then
      if isFlag next then .error .usage
      else (options.withConfig next).bind fun options => addAll options rest
    else (options.one argument).bind fun options => addAll options (next :: rest)

/-- The options of a command line. -/
def ofArguments (arguments : List String) : Except Halt Options := addAll {} arguments

end Options
end Junction.Cli
