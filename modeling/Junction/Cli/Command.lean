import Junction.Cli.Arguments
import Junction.Cli.LogFilter
import Junction.Config.Loading

/-!
What the command does: it loads the configuration and says whether it is valid.
-/

namespace Junction.Cli

/-- A log message. -/
structure Message where
  level : Level
  target : String
  fields : List (String × Json)
deriving Inhabited

/-- A message as a JSON object. -/
def Message.toJson (message : Message) : Json :=
  .object [("level", .text message.level.name), ("fields", .object message.fields), ("target", .text message.target)]

/-- What a command leaves: its exit code, the complaint it prints, and the messages it logs. -/
structure Outcome where
  exit : Nat
  complaint? : Option String := none
  log : List Message := []
deriving Inhabited

/-- The message that a configuration is valid. -/
def validMessage (path : String) (gateway : Config.Gateway) : Message :=
  { level := .info
    target := "api_gateway"
    fields := [("message", .text "Configuration is valid"), ("path", .text path),
      ("endpoints", Json.ofNat gateway.endpoints.length)] }

/-- The outcome for a configuration that has been loaded from a path, or not. Messages are logged as JSON if
the configuration wants that and the filter shows them. -/
def validated (filter : Option String) (path : String) (loaded : Except Config.LoadError Config.Gateway) :
    Outcome :=
  match loaded with
  | .error error => { exit := 1, complaint? := some ("failed to load " ++ path ++ ": " ++ error.message) }
  | .ok gateway =>
    let message := validMessage path gateway
    let directives := LogFilter.choose filter message.target gateway.observability.logLevel
    let shown := directives.shows message.target message.level
    { exit := 0, log := if gateway.observability.jsonLogs && shown then [message] else [] }

/-- How to use the command. -/
def usage : String :=
  "usage: [-c|--config FILE] [--validate] [--no-watch]\n" ++
    "FILE is a configuration ending in .toml, .json, .yaml or .yml"

/-- The outcome of a command line that is not run. -/
def halted : Halt → Outcome
  | .help => { exit := 0 }
  | .usage => { exit := 2 }

/-- What the environment of a command gives. -/
structure Environment where
  /-- The configuration file for a command line without one. -/
  config? : Option String := none
  /-- The directives of the log filter. -/
  filter? : Option String := none
deriving DecidableEq, Repr, Inhabited

/-- The configuration file: the given one, else that of the environment, else the usual one. -/
def Options.path (options : Options) (environment : Environment) : Except Halt String :=
  match options.config? <|> environment.config? with
  | some path => if path.isEmpty then .error .usage else .ok path
  | none => .ok "gateway.toml"

/-- What a command line asks for, and the configuration file it is about. -/
def request (arguments : List String) (environment : Environment) : Except Halt (Options × String) :=
  (Options.ofArguments arguments).bind fun options => (options.path environment).map (options, ·)

/-- The outcome of a command that shall serve, for which it has no listener. -/
def unserved : Outcome := { exit := 1, complaint? := some "no listener to serve with, only --validate is at hand" }

/-- The outcome of a command for a configuration that has been loaded from a path, or not. -/
def outcome (options : Options) (environment : Environment) (path : String)
    (loaded : Except Config.LoadError Config.Gateway) : Outcome :=
  let report := validated environment.filter? path loaded
  if report.exit = 0 && !options.validate then unserved else report

end Junction.Cli
